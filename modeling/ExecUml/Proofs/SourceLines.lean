import ExecUml.Proofs.ModuleGraph
import ExecUml.Proofs.OutputPaths
import ExecUml.Proofs.UnescapedLiterals

/-!
# Sources of imports and exports

The lines of a module that name another module write its source in quotes without an escape. Quotes
and backslashes of declared names survive in directories and stems, so a line is read back as what
it names exactly if the declared names behind its source have neither. Line breaks are no matter:
they separate words and are never spelled.
-/

set_option autoImplicit false

namespace ExecUml

open Text

namespace Script

/-! ## Lines with a source -/

/-- What follows the first occurrence of a nonempty pattern. -/
def afterFirst? (pat : List Char) : List Char → Option (List Char)
  | [] => none
  | c :: cs => (afterFront? pat (c :: cs)).or (afterFirst? pat cs)

/-- What stands in front of the source of an import or export. -/
def fromQuote : List Char := [' ', 'f', 'r', 'o', 'm', ' ', '\'']

/-- The source that a reader finds in a line, and what follows its closing quote. -/
def sourceIn? (line : List Char) : Option (String × List Char) :=
  (afterFirst? fromQuote line).bind fun cs => quotedText? ('\'' :: cs)

/-- A line of a module and the source that it stands for. -/
structure SourceLine where
  text : String
  source : String

/-- The literal in the line ends at the quote directly before the semicolon, and its value is the
source. -/
def SourceLine.ReadsBack (line : SourceLine) : Prop :=
  sourceIn? line.text.toList = some (line.source, [';', '\n'])

instance : DecidablePred SourceLine.ReadsBack := fun _ => inferInstanceAs (Decidable (_ = _))

def Import.sourceLine (i : Import) : SourceLine := ⟨i.print, i.source⟩

def Item.sourceLine? : Item → Option SourceLine
  | .interface _ => none
  | .classDecl _ => none
  | .reexport names source => some ⟨(Item.reexport names source).print, source⟩
  | .reexportAll source => some ⟨(Item.reexportAll source).print, source⟩

/-- The imports of a module and then its exports of other modules. -/
def Module.sourceLines (mod : Module) : List SourceLine :=
  mod.imports.map Import.sourceLine ++ mod.items.filterMap Item.sourceLine?

/-! ## Finding the source -/

theorem afterFirst?_word {word : List Char} (h : ' ' ∉ word) (cs : List Char) :
    afterFirst? fromQuote (word ++ cs) = afterFirst? fromQuote cs := by
  induction word with
  | nil => rfl
  | cons c word ih =>
    have hc : ' ' ≠ c := List.ne_of_not_mem_cons h
    have hfront : afterFront? fromQuote (c :: (word ++ cs)) = none := if_neg hc
    rw [List.cons_append, afterFirst?, hfront, Option.none_or, ih (List.not_mem_of_not_mem_cons h)]

/-- A word between blanks is passed over unless it is the one in front of a quote. -/
theorem afterFirst?_blank {word cs : List Char} (h : ' ' ∉ word)
    (hcs : word ≠ ['f', 'r', 'o', 'm'] ∨ cs.head? ≠ some '\'') :
    afterFirst? fromQuote (' ' :: (word ++ ' ' :: cs)) = afterFirst? fromQuote (' ' :: cs) := by
  have hfront : afterFront? fromQuote (' ' :: (word ++ ' ' :: cs)) = none := by
    rw [Option.eq_none_iff_forall_ne_some]
    intro rest hrest
    have hsplit : word ++ ' ' :: cs = ['f', 'r', 'o', 'm'] ++ ' ' :: '\'' :: rest :=
      (List.cons.inj (afterFront?_eq_some_iff.mp hrest)).2
    obtain ⟨hword, hquote⟩ := append_cons_inj h (by decide) hsplit
    rcases hcs with hcs | hcs
    · exact hcs hword
    · exact hcs (by rw [hquote, List.head?_cons])
  rw [afterFirst?, hfront, Option.none_or, afterFirst?_word h]

theorem afterFirst?_here (cs : List Char) : afterFirst? fromQuote (fromQuote ++ cs) = some cs := by
  have hfront : afterFront? fromQuote (fromQuote ++ cs) = some cs := afterFront?_eq_some_iff.mpr rfl
  rw [← hfront]
  exact congrArg (Option.or · _) hfront

theorem afterFirst?_mark {c : Char} (hc : ' ' ∉ [c]) (cs : List Char) :
    afterFirst? fromQuote (' ' :: c :: (fromQuote ++ cs)) = some cs := by
  rw [← afterFirst?_here cs]
  exact afterFirst?_blank hc (.inl (by simp))

theorem afterFirst?_names {names : List String} (h : ∀ name ∈ names, ' ' ∉ name.toList)
    (cs : List Char) :
    afterFirst? fromQuote
      (' ' :: ((String.intercalate ", " names).toList ++ ' ' :: '\x7d' :: (fromQuote ++ cs))) =
        some cs := by
  have hclose := afterFirst?_mark (by decide : ' ' ∉ ['\x7d']) cs
  rw [String.toList_intercalate]
  cases names with
  | nil => exact (afterFirst?_blank List.not_mem_nil (.inl (by decide))).trans hclose
  | cons name names =>
    rw [List.map_cons, intercalate_cons_eq]
    induction names generalizing name with
    | nil =>
      rw [List.map_nil, List.flatMap_nil, List.append_nil]
      exact (afterFirst?_blank (h name List.mem_cons_self) (.inr (by simp))).trans hclose
    | cons next names ih =>
      have hcomma : ' ' ∉ name.toList ++ [','] := by simpa using h name List.mem_cons_self
      have hrest := ih next fun n hn => h n (List.mem_cons_of_mem _ hn)
      have hfrom : name.toList ++ [','] ≠ ['f', 'r', 'o', 'm'] := by
        intro hword
        simpa using congrArg List.getLast? hword
      rw [← afterFirst?_blank hcomma (.inl hfrom)] at hrest
      simpa using hrest

theorem toList_namesFrom (names : List String) (source : String) :
    (namesFrom names source).toList = '\x7b' :: ' ' :: ((String.intercalate ", " names).toList ++
      ' ' :: '\x7d' :: (fromQuote ++ (source.toList ++ ['\'', ';', '\n']))) := by
  simp [namesFrom, fromQuote, String.toList_append]

/-- In a list of names without blanks, the source is found behind the closing brace. -/
theorem sourceIn?_namesFrom {names : List String} (h : ∀ name ∈ names, ' ' ∉ name.toList)
    {word : List Char}
    (hword : ' ' ∉ word) (source : String) :
    sourceIn? (word ++ ' ' :: (namesFrom names source).toList) =
      quotedText? ('\'' :: (source.toList ++ '\'' :: [';', '\n'])) := by
  have hbrace := afterFirst?_names h (source.toList ++ ['\'', ';', '\n'])
  rw [sourceIn?, afterFirst?_word hword, toList_namesFrom]
  rw [← afterFirst?_blank (by decide : ' ' ∉ ['\x7b']) (.inl (by decide))] at hbrace
  rw [List.singleton_append] at hbrace
  rw [hbrace, Option.bind_some]

theorem sourceIn?_reexportAll (source : String) :
    sourceIn? (Item.reexportAll source).print.toList =
      quotedText? ('\'' :: (source.toList ++ '\'' :: [';', '\n'])) := by
  have htext : (Item.reexportAll source).print.toList = ['e', 'x', 'p', 'o', 'r', 't'] ++
      ' ' :: '*' :: (fromQuote ++ (source.toList ++ ['\'', ';', '\n'])) := by
    simp [Item.print, fromQuote, String.toList_append]
  rw [sourceIn?, htext, afterFirst?_word (by decide), afterFirst?_mark (by decide),
    Option.bind_some]

/-! ## Lines of a module -/

/-- A module that imports and exports names without blanks. -/
structure Module.NamesWords (mod : Module) : Prop where
  imports : ∀ i ∈ mod.imports, ∀ name ∈ i.names, ' ' ∉ name.toList
  exports : ∀ names source, Item.reexport names source ∈ mod.items →
    ∀ name ∈ names, ' ' ∉ name.toList

theorem Module.mem_sourceLines {mod : Module} {line : SourceLine} :
    line ∈ mod.sourceLines ↔
      (∃ i ∈ mod.imports, i.sourceLine = line) ∨
        ∃ item ∈ mod.items, item.sourceLine? = some line := by
  rw [sourceLines, List.mem_append, List.mem_map, List.mem_filterMap]

theorem Module.NamesWords.readsBack_iff {mod : Module} (h : mod.NamesWords) {line : SourceLine}
    (hline : line ∈ mod.sourceLines) : line.ReadsBack ↔ Unmarked line.source.toList := by
  suffices hfound : sourceIn? line.text.toList =
      quotedText? ('\'' :: (line.source.toList ++ '\'' :: [';', '\n'])) by
    rw [SourceLine.ReadsBack, hfound]
    exact quotedText?_eq_some_iff line.source [';', '\n']
  rcases mem_sourceLines.mp hline with ⟨i, hi, rfl⟩ | ⟨item, hitem, heq⟩
  · rw [← sourceIn?_namesFrom (h.imports i hi) (by decide : ' ' ∉ ['i', 'm', 'p', 'o', 'r', 't'])]
    simp [Import.sourceLine, Import.print, String.toList_append]
  · cases item with
    | interface decl => cases heq
    | classDecl decl => cases heq
    | reexport names source =>
      cases heq
      rw [← sourceIn?_namesFrom (h.exports names source hitem)
        (by decide : ' ' ∉ ['e', 'x', 'p', 'o', 'r', 't'])]
      simp [Item.print, String.toList_append]
    | reexportAll source =>
      cases heq
      exact sourceIn?_reexportAll source

theorem item_within {items : List Item} {item : Item} (h : item ∈ items)
    (started afterExport : Bool) :
    item.print.toList <:+: (printItems started afterExport items).toList := by
  induction items generalizing started afterExport with
  | nil => cases h
  | cons first items ih =>
    rw [printItems, String.toList_append, String.toList_append]
    rcases List.mem_cons.mp h with rfl | h
    · exact ⟨_, _, rfl⟩
    · exact (ih h true first.isExport).trans (List.suffix_append _ _).isInfix

/-- Every such line stands in the text of its module. -/
theorem Module.sourceLine_within {mod : Module} {line : SourceLine}
    (hline : line ∈ mod.sourceLines) :
    line.text.toList <:+: mod.print.toList := by
  simp only [Module.print, String.toList_append]
  rcases mem_sourceLines.mp hline with ⟨i, hi, rfl⟩ | ⟨item, hitem, heq⟩
  · have hjoined : i.print.toList <:+: (String.join (mod.imports.map Import.print)).toList := by
      obtain ⟨before, after, himports⟩ := List.append_of_mem hi
      rw [himports]
      simp [String.toList_join]
    apply hjoined.trans
    apply List.IsInfix.trans _ (List.prefix_append _ _).isInfix
    exact (List.suffix_append _ _).isInfix
  · have htext : line.text = item.print := by
      cases item <;> cases heq <;> rfl
    rw [htext]
    exact (item_within hitem _ _).trans (List.suffix_append _ _).isInfix

/-! ## Spelled names -/

theorem caseFree_literalMarks : CaseFree literalMarks :=
  ⟨by decide, by decide, by decide, by decide, ⟨by decide +kernel, by decide +kernel⟩,
    ⟨by decide +kernel, by decide +kernel⟩⟩

theorem case_literalMarks {c : Char} (h : literalMarks.has c = true) :
    upper c = [c] ∧ lower c = [c] := by
  rcases (has_literalMarks_iff c).mp h with rfl | rfl | rfl | rfl <;> decide

theorem unmarked_append {cs ds : List Char} : Unmarked (cs ++ ds) ↔ Unmarked cs ∧ Unmarked ds :=
  List.forall_mem_append

theorem unmarked_singleton {c : Char} : Unmarked [c] ↔ literalMarks.has c = false :=
  List.forall_mem_singleton

theorem unmarked_cons {c : Char} {cs : List Char} :
    Unmarked (c :: cs) ↔ literalMarks.has c = false ∧ Unmarked cs :=
  List.forall_mem_cons

/-- A change of case that keeps the marks and makes none. -/
theorem unmarked_image_iff {c : Char} {image : List Char}
    (hkeep : literalMarks.has c = true → image = [c])
    (hmake : literalMarks.has c = false → Unmarked image) :
    Unmarked image ↔ literalMarks.has c = false := by
  constructor
  · intro h
    by_contra hc
    rw [Bool.not_eq_false] at hc
    rw [hkeep hc, unmarked_singleton, hc] at h
    cases h
  · exact hmake

theorem unmarked_upper_iff (c : Char) : Unmarked (upper c) ↔ literalMarks.has c = false :=
  unmarked_image_iff (fun h => (case_literalMarks h).1) fun h _ hx =>
    has_upper caseFree_literalMarks h hx

theorem unmarked_lower_iff (c : Char) : Unmarked (lower c) ↔ literalMarks.has c = false :=
  unmarked_image_iff (fun h => (case_literalMarks h).2) fun h _ hx =>
    has_lower caseFree_literalMarks h hx

theorem unmarked_lowerAfter_iff (before cs : List Char) :
    Unmarked (lowerAfter before cs) ↔ Unmarked cs := by
  induction cs generalizing before with
  | nil => rfl
  | cons c cs ih =>
    rw [lowerAfter, unmarked_append, unmarked_cons, ih]
    apply and_congr_left'
    split
    · rename_i hsigma
      rw [hsigma, unmarked_singleton]
      split <;> decide
    · exact unmarked_lower_iff c

theorem unmarked_capitalized_iff (cs : List Char) : Unmarked (capitalized cs) ↔ Unmarked cs := by
  cases cs with
  | nil => rfl
  | cons c cs =>
    rw [capitalized, lowerChars, unmarked_append, unmarked_cons, unmarked_upper_iff,
      unmarked_lowerAfter_iff]

theorem unmarked_pascalChars_iff (cs : List Char) :
    Unmarked (pascalChars cs) ↔ Unmarked (spelled cs) := by
  rw [spelled, ← flatten_splitWhere, pascalChars]
  induction splitWhere isSeparator cs with
  | nil => rfl
  | cons w ws ih =>
    rw [List.flatMap_cons, List.flatten_cons, unmarked_append, unmarked_append,
      unmarked_capitalized_iff, ih]

theorem unmarked_uncapitalized_iff (cs : List Char) :
    Unmarked (uncapitalized cs) ↔ Unmarked cs := by
  cases cs with
  | nil => rfl
  | cons c cs => rw [uncapitalized, unmarked_append, unmarked_cons, unmarked_lower_iff]

theorem unmarked_hyphenated_iff (before : Option Char) (cs : List Char) :
    Unmarked (hyphenated before cs) ↔ Unmarked cs := by
  induction cs generalizing before with
  | nil => rfl
  | cons c cs ih =>
    have hhyphen : Unmarked (if isAsciiUpper c && before.any isAsciiLower then ['-'] else []) := by
      split
      · exact unmarked_singleton.mpr (by decide)
      · exact List.forall_mem_nil _
    rw [hyphenated, unmarked_append, unmarked_append, unmarked_cons, unmarked_lower_iff, ih]
    simp only [hhyphen, true_and]

end Script

open Script

/-- A name with neither a quote nor a backslash. -/
def Quotable (name : String) : Prop := '\'' ∉ name.toList ∧ '\\' ∉ name.toList

instance : DecidablePred Quotable := fun _ => inferInstanceAs (Decidable (_ ∧ _))

theorem unmarked_spelled_iff (name : String) : Unmarked (spelled name.toList) ↔ Quotable name := by
  constructor
  · intro h
    have hmark : ∀ c, isSeparator c = false → literalMarks.has c = true → c ∉ name.toList := by
      intro c hseparator hc hmem
      have hspelled : c ∈ spelled name.toList := List.mem_filter.mpr ⟨hmem, by simp [hseparator]⟩
      rw [h c hspelled] at hc
      cases hc
    exact ⟨hmark '\'' (by decide) (by decide), hmark '\\' (by decide) (by decide)⟩
  · rintro ⟨hquote, hback⟩ c hc
    obtain ⟨hmem, hseparator⟩ := List.mem_filter.mp hc
    rw [Bool.eq_false_iff, Ne, has_literalMarks_iff]
    -- Line breaks separate words, so they are not spelled.
    rintro (rfl | rfl | rfl | rfl)
    · exact absurd hseparator (by decide)
    · exact absurd hseparator (by decide)
    · exact hquote hmem
    · exact hback hmem

theorem unmarked_directory_iff (d : Domain) : Unmarked d.directory.toList ↔ Quotable d.name := by
  rw [Domain.directory, camelCase, String.toList_ofList, camelChars, unmarked_uncapitalized_iff,
    unmarked_pascalChars_iff, unmarked_spelled_iff]

theorem unmarked_classStem_iff (name : String) :
    Unmarked (classStem name).toList ↔ Quotable name := by
  rw [← unmarked_spelled_iff, ← unmarked_pascalChars_iff]
  unfold classStem fileStem pascalCase
  by_cases hnil : pascalChars name.toList = []
  · rw [if_pos (by simp [hnil]), hnil]
    decide
  · rw [if_neg (by simpa using hnil), String.toList_ofList, String.toList_ofList,
      unmarked_hyphenated_iff]

theorem unmarked_interfaceStem_iff (name : String) :
    Unmarked (interfaceStem name).toList ↔ Quotable name := by
  rw [toList_interfaceStem, unmarked_hyphenated_iff, unmarked_cons, unmarked_pascalChars_iff,
    unmarked_spelled_iff]
  simp only [(by decide : literalMarks.has 'I' = false), true_and]

theorem unmarked_sibling_iff (stem : String) :
    Unmarked ("./" ++ stem).toList ↔ Unmarked stem.toList := by
  rw [String.toList_append, unmarked_append, and_iff_right (by decide)]

/-- Beside the stem, the source of a parent holds only the directory of a domain. -/
theorem unmarked_parentSource_iff {ix : ClassIndex} {parent : String}
    (h : ∀ home, ix.domainOf? parent = some home → Quotable home.name) (d : Domain)
    (stem : String) :
    Unmarked (parentSource ix d parent stem).toList ↔ Unmarked stem.toList := by
  unfold parentSource
  split
  · rename_i home hhome
    split
    · exact unmarked_sibling_iff stem
    · have hdirectory := (unmarked_directory_iff home).mpr (h home hhome)
      rw [String.toList_append, unmarked_append, String.toList_append, unmarked_append,
        String.toList_append, unmarked_append]
      simp only [hdirectory, (by decide : Unmarked "../".toList), (by decide : Unmarked "/".toList),
        true_and]
  · exact unmarked_sibling_iff stem

theorem blank_not_mem_pascalCase (name : String) : ' ' ∉ (pascalCase name).toList := by
  intro h
  rw [pascalCase, String.toList_ofList] at h
  obtain ⟨w, hw, h⟩ := List.mem_flatMap.mp h
  have hword : ∀ c ∈ w, separators.has c = false := by
    intro c hc
    rw [← isSeparator_eq_has]
    exact not_separator_of_mem_splitWhere hw hc
  exact absurd (has_capitalized caseFree_separators hword h) (by decide)

theorem blank_not_mem_interfaceName (name : String) : ' ' ∉ (interfaceName name).toList := by
  simpa [interfaceName, String.toList_append] using blank_not_mem_pascalCase name

/-! ## Modules of a model -/

/-- Every name that reaches the source of an import or export. -/
def Model.NamesQuotable (m : Model) : Prop :=
  ∀ d ∈ m.domains, Quotable d.name ∧ ∀ c ∈ d.allClasses, Quotable c.name ∧
    ∀ p ∈ c.parent, Quotable p

instance (m : Model) : Decidable m.NamesQuotable := inferInstanceAs (Decidable (∀ _ ∈ _, _))

theorem Model.forall_modules {m : Model} {mode : EmitMode} {P : Module → Prop} :
    (∀ p ∈ m.modules mode, P p.module) ↔
      (∀ d ∈ m.domains,
        (∀ c ∈ d.allClasses, ∀ f ∈ Scope.modules ⟨.ofModel m, c⟩ m d mode, P f.module) ∧
        P (d.indexModule m (d.classModules m (.ofModel m) mode))) ∧ P m.rootModule.module := by
  simp only [Model.modules, Domain.modules, Domain.classModules, List.forall_mem_append,
    List.forall_mem_flatMap, List.forall_mem_map, List.forall_mem_singleton]

section Modules

variable {scope : Scope} {m : Model} {d : Domain} {mode : EmitMode} {f : ClassModule}

theorem Scope.blank_not_mem_exports (hf : f ∈ scope.modules m d mode) :
    ∀ name ∈ f.exports, ' ' ∉ name.toList := by
  have hinterface := blank_not_mem_interfaceName scope.owner.name
  have hclass := blank_not_mem_pascalCase scope.owner.name
  cases mode with
  | merged => simp_all [Scope.modules, Scope.mergedModule]
  | split =>
    rcases List.mem_pair.mp hf with rfl | rfl
    · simpa [Scope.interfaceModule] using hinterface
    · simpa [Scope.classModule] using hclass

theorem Scope.namesWords (hf : f ∈ scope.modules m d mode) : f.module.NamesWords := by
  have hinterface := blank_not_mem_interfaceName
  have hclass := blank_not_mem_pascalCase
  cases mode with
  | merged =>
    rw [List.mem_singleton.mp hf]
    constructor <;> simp [Scope.mergedModule, hinterface, hclass]
  | split =>
    rcases List.mem_pair.mp hf with rfl | rfl
    · constructor <;> simp [Scope.interfaceModule, hinterface]
    · constructor <;> simp [Scope.classModule, hinterface, hclass]

theorem Domain.namesWords_index (d : Domain) (m : Model) (ix : ClassIndex) (mode : EmitMode) :
    (d.indexModule m (d.classModules m ix mode)).NamesWords := by
  refine ⟨List.forall_mem_nil _, ?_⟩
  intro names source hitem
  obtain ⟨f, hf, heq⟩ := List.mem_map.mp hitem
  cases heq
  obtain ⟨c, _, hf⟩ := List.mem_flatMap.mp hf
  exact Scope.blank_not_mem_exports hf

theorem Model.namesWords (m : Model) (mode : EmitMode) :
    ∀ p ∈ m.modules mode, p.module.NamesWords := by
  rw [Model.forall_modules]
  refine ⟨fun d _ => ⟨fun c _ f hf => Scope.namesWords hf, Domain.namesWords_index d m _ mode⟩, ?_⟩
  exact ⟨List.forall_mem_nil _, fun _ _ hitem => by simp [Model.rootModule] at hitem⟩

/-- No source in the module has a character with a meaning in quotes. -/
def Script.Module.SourcesUnmarked (mod : Module) : Prop :=
  ∀ line ∈ mod.sourceLines, Unmarked line.source.toList

theorem Script.Module.sourcesUnmarked_iff {mod : Module} :
    mod.SourcesUnmarked ↔ (∀ i ∈ mod.imports, Unmarked i.source.toList) ∧
      ∀ item ∈ mod.items, ∀ line ∈ item.sourceLine?, Unmarked line.source.toList := by
  rw [SourcesUnmarked, sourceLines, List.forall_mem_append, List.forall_mem_map,
    List.forall_mem_filterMap]
  rfl

theorem Scope.sourcesUnmarked_iff
    (h : ∀ parent home, scope.index.domainOf? parent = some home → Quotable home.name) :
    (∀ f ∈ scope.modules m d mode, f.module.SourcesUnmarked) ↔
      (mode = .split → Quotable scope.owner.name) ∧ ∀ p ∈ scope.owner.parent, Quotable p := by
  have hclass : ∀ p, Unmarked (parentSource scope.index d p (classStem p)).toList ↔ Quotable p := by
    intro p
    rw [unmarked_parentSource_iff (h p), unmarked_classStem_iff]
  have hinterface : ∀ p, Unmarked (parentSource scope.index d p (interfaceStem p)).toList ↔
      Quotable p := by
    intro p
    rw [unmarked_parentSource_iff (h p), unmarked_interfaceStem_iff]
  have hown : Unmarked ("./" ++ interfaceStem scope.owner.name).toList ↔
      Quotable scope.owner.name := by
    rw [unmarked_sibling_iff, unmarked_interfaceStem_iff]
  cases mode with
  | merged =>
    simp [Scope.modules, Scope.mergedModule, Module.sourcesUnmarked_iff, Item.sourceLine?, hclass]
  | split =>
    simp [Scope.modules, Scope.interfaceModule, Scope.classModule, Module.sourcesUnmarked_iff,
      Item.sourceLine?, hclass, hinterface, hown, -String.toList_append]

theorem Domain.sourcesUnmarked_index_iff (d : Domain) (m : Model) (ix : ClassIndex)
    (mode : EmitMode) :
    (d.indexModule m (d.classModules m ix mode)).SourcesUnmarked ↔
      ∀ c ∈ d.allClasses, Quotable c.name := by
  have hlines : (d.indexModule m (d.classModules m ix mode)).SourcesUnmarked ↔
      ∀ stem ∈ (d.classModules m ix mode).map (·.stem), Unmarked stem.toList := by
    simp [Module.sourcesUnmarked_iff, Domain.indexModule, Item.sourceLine?, unmarked_sibling_iff,
      -String.toList_append]
  have hstems : ∀ name, (∀ stem ∈ stemsOf name mode, Unmarked stem.toList) ↔ Quotable name := by
    intro name
    cases mode <;> simp [stemsOf, unmarked_classStem_iff, unmarked_interfaceStem_iff]
  rw [hlines]
  simp only [Domain.classModules, List.map_flatMap, map_stem_modules, List.forall_mem_flatMap,
    hstems]

theorem Model.sourcesUnmarked_root_iff (m : Model) :
    m.rootModule.module.SourcesUnmarked ↔ ∀ d ∈ m.domains, Quotable d.name := by
  simp [Module.sourcesUnmarked_iff, Model.rootModule, Item.sourceLine?, unmarked_sibling_iff,
    unmarked_directory_iff, -String.toList_append]

theorem Model.quotable_of_domainOf? (h : ∀ d ∈ m.domains, Quotable d.name) (parent : String)
    (home : Domain)
    (hhome : (ClassIndex.ofModel m).domainOf? parent = some home) : Quotable home.name := by
  obtain ⟨⟨d, c⟩, hentry, rfl⟩ := Option.map_eq_some_iff.mp hhome
  rw [ClassIndex.declaration?_ofModel] at hentry
  exact h d (Model.mem_declarations.mp (List.mem_of_find?_eq_some hentry)).1

theorem Model.sourcesUnmarked_iff (m : Model) (mode : EmitMode) :
    (∀ p ∈ m.modules mode, p.module.SourcesUnmarked) ↔ m.NamesQuotable := by
  rw [Model.forall_modules, Model.sourcesUnmarked_root_iff, Model.NamesQuotable]
  constructor
  · rintro ⟨hclasses, hdomains⟩ d hd
    have hnames := (d.sourcesUnmarked_index_iff m _ mode).mp (hclasses d hd).2
    refine ⟨hdomains d hd, fun c hc => ⟨hnames c hc, ?_⟩⟩
    exact ((Scope.sourcesUnmarked_iff (Model.quotable_of_domainOf? hdomains)).mp
      ((hclasses d hd).1 c hc)).2
  · intro h
    have hdomains : ∀ d ∈ m.domains, Quotable d.name := fun d hd => (h d hd).1
    refine ⟨fun d hd => ⟨fun c hc => ?_, ?_⟩, hdomains⟩
    · obtain ⟨hname, hparent⟩ := (h d hd).2 c hc
      exact (Scope.sourcesUnmarked_iff (Model.quotable_of_domainOf? hdomains)).mpr
        ⟨fun _ => hname, hparent⟩
    · exact (d.sourcesUnmarked_index_iff m _ mode).mpr fun c hc => ((h d hd).2 c hc).1

end Modules

/-- The lines that name other modules stand in the files of a model, and all of them are read back
exactly if no name behind a source has a quote or a backslash. The lines of the root index name the
domains in order, and each of them is read back exactly if the name of its domain has neither. -/
theorem sources_read_back_iff (m : Model) (mode : EmitMode) :
    (∀ p ∈ m.modules mode, ∀ line ∈ p.module.sourceLines,
      line.text.toList <:+: p.file.content.toList) ∧
    ((∀ p ∈ m.modules mode, ∀ line ∈ p.module.sourceLines, line.ReadsBack) ↔ m.NamesQuotable) ∧
    List.Forall₂
      (fun line d => line.source = "./" ++ d.directory ∧ (line.ReadsBack ↔ Quotable d.name))
      m.rootModule.module.sourceLines m.domains := by
  refine ⟨fun p _ line hline => Module.sourceLine_within hline, ?_, ?_⟩
  · rw [← Model.sourcesUnmarked_iff m mode]
    constructor
    · intro h p hp line hline
      exact ((m.namesWords mode p hp).readsBack_iff hline).mp (h p hp line hline)
    · intro h p hp line hline
      exact ((m.namesWords mode p hp).readsBack_iff hline).mpr (h p hp line hline)
  · have hwords : m.rootModule.module.NamesWords :=
      m.namesWords mode m.rootModule (List.mem_append_right _ List.mem_cons_self)
    have hlines : m.rootModule.module.sourceLines =
        m.domains.map fun d =>
          ⟨(Item.reexportAll ("./" ++ d.directory)).print, "./" ++ d.directory⟩ := by
      simp [Model.rootModule, Module.sourceLines, Item.sourceLine?, Function.comp_def]
    have hread : ∀ line ∈ m.rootModule.module.sourceLines, line.ReadsBack ↔
        Unmarked line.source.toList :=
      fun line hline => hwords.readsBack_iff hline
    rw [hlines, List.forall_mem_map] at hread
    rw [hlines, List.forall₂_map_left_iff, List.forall₂_same]
    intro d hd
    exact ⟨rfl, by rw [hread d hd, unmarked_sibling_iff, unmarked_directory_iff]⟩

namespace House

/-- The sources of a plain room are read back. Nothing is wrong with a domain that has a quote in
its name, but the literal in the root index ends at that quote. With a backslash, the index names
another directory. -/
theorem owners_sources_not_read_back :
    (ofDomain (room "Owner's" [plain "Lamp" none])).defect? = none ∧
    (ofDomain (room "Owner's" [plain "Lamp" none])).findings = [] ∧
    (∀ p ∈ (ofDomain (room "Room" [plain "Lamp" none])).modules .split,
      ∀ line ∈ p.module.sourceLines, line.ReadsBack) ∧
    (∀ domain ∈ ["Owner's", "Attic\\nook"], ∀ mode,
      ¬ ∀ p ∈ (ofDomain (room domain [plain "Lamp" none])).modules mode,
        ∀ line ∈ p.module.sourceLines, line.ReadsBack) ∧
    ["Owner's", "Attic\\nook"].map (fun domain =>
      (ofDomain (room domain [plain "Lamp" none])).rootModule.module.sourceLines.map
        fun line => (line.source, sourceIn? line.text.toList)) =
      [[("./owner's", some ("./owner", "s';\n".toList))],
        [("./attic\\nook", some ("./attic\nook", ";\n".toList))]] := by
  refine ⟨by decide +kernel, by decide +kernel, ?_, ?_, by decide +kernel⟩
  · exact (sources_read_back_iff _ _).2.1.mpr (by decide +kernel)
  · intro domain hdomain mode hread
    have hnames := (sources_read_back_iff _ mode).2.1.mp hread
    have hmarked : ∀ domain ∈ ["Owner's", "Attic\\nook"],
        ¬ (ofDomain (room domain [plain "Lamp" none])).NamesQuotable := by decide +kernel
    exact hmarked domain hdomain hnames

end House

end ExecUml
