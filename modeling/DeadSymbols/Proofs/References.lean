import DeadSymbols.Proofs.LineGrammar
import DeadSymbols.Proofs.Lines
import DeadSymbols.Proofs.Ordered

/-!
Contract: which lines declare a class, and which refer to a class or a selector.

A class is declared by two neighbouring lines once blank lines are dropped, a name line and a line
of methods. It is referenced by a line of its own. A selector is referenced by the mark before it,
wherever the mark stands; the text between marks is skipped character by character.

Owns: the steps of the three scans, and the declared and referenced classes in terms of lines.
-/

namespace DeadSymbols.Dump

open DeadSymbols.Text

/-! ### Declared classes -/

/-- The lines that are not blank. -/
def writtenLines (body : List Char) : List (List Char) := (lines body).filter (!isBlank ·)

/-- Each line contributes the token before methods that it holds with the next line, if any. -/
theorem namesBeforeMethods_cons_cons {line next : List Char} {rest : List (List Char)} :
    namesBeforeMethods (line :: next :: rest) =
      (if startsWith "baseMethods".toList (trimStart next) then (nameToken? line).toList else []) ++
        namesBeforeMethods (next :: rest) := by
  rw [namesBeforeMethods]
  cases nameToken? line with
  | none => rw [Option.toList_none, ite_self, List.nil_append]
  | some name =>
      cases startsWith "baseMethods".toList (trimStart next) with
      | true => rfl
      | false => rfl

/-- The names declared by lines, blank ones included. -/
def namesDeclared (texts : List (List Char)) : List String :=
  namesBeforeMethods (texts.filter (!isBlank ·))

section Declared

variable {line next : List Char} {rest : List (List Char)}

/-- A line that starts with a word is not blank. -/
theorem isBlank_eq_false_of_startsWith {word : List Char} (notEmpty : word ≠ [])
    (starts : startsWith word (trimStart line) = true) : isBlank line = false := by
  rw [← Bool.not_eq_true]
  intro blank
  have trimmed : trimStart line = [] :=
    List.dropWhile_eq_nil_iff.mpr (List.all_eq_true.mp blank)
  obtain ⟨after, whole⟩ := startsWith_iff.mp starts
  rw [trimmed] at whole
  exact notEmpty (List.append_eq_nil_iff.mp whole.symm).1

theorem isBlank_eq_false_of_nameToken? {name : String} (named : nameToken? line = some name) :
    isBlank line = false := by
  refine isBlank_eq_false_of_startsWith isWord_name.1 ?_
  obtain ⟨after, found, _⟩ := Option.bind_eq_some_iff.mp named
  exact Option.isSome_of_eq_some found

/-- A line without a name declares nothing, whether it is blank or not. -/
theorem namesDeclared_nameless (nameless : nameToken? line = none) :
    namesDeclared (line :: rest) = namesDeclared rest := by
  unfold namesDeclared
  rw [List.filter_cons]
  split
  · cases rest.filter (!isBlank ·) with
    | nil => rfl
    | cons next later =>
        rw [namesBeforeMethods_cons_cons, nameless, Option.toList_none, ite_self, List.nil_append]
  · rfl

theorem namesDeclared_append {before : List (List Char)}
    (nameless : ∀ other ∈ before, nameToken? other = none) :
    namesDeclared (before ++ rest) = namesDeclared rest := by
  induction before with
  | nil => rfl
  | cons line before inductionHypothesis =>
      obtain ⟨here, later⟩ := List.forall_mem_cons.mp nameless
      rw [List.cons_append, namesDeclared_nameless here, inductionHypothesis later]

/-- A line before a line of another kind declares nothing, even if it holds a name. -/
theorem namesDeclared_before_other (notBlank : isBlank next = false)
    (other : startsWith "baseMethods".toList (trimStart next) = false) :
    namesDeclared (line :: next :: rest) = namesDeclared (next :: rest) := by
  have kept : (next :: rest).filter (!isBlank ·) = next :: rest.filter (!isBlank ·) :=
    List.filter_cons_of_pos (by rw [notBlank]; rfl)
  unfold namesDeclared
  rw [List.filter_cons, kept]
  split
  · rw [namesBeforeMethods_cons_cons, other, if_neg Bool.false_ne_true, List.nil_append]
  · rfl

/-- A name line before a line of methods declares its name. -/
theorem namesDeclared_before_methods {name : String} (named : nameToken? line = some name)
    (methods : startsWith "baseMethods".toList (trimStart next) = true) :
    namesDeclared (line :: next :: rest) = name :: namesDeclared (next :: rest) := by
  have notBlank : isBlank next = false :=
    isBlank_eq_false_of_startsWith (by decide) methods
  have kept : (next :: rest).filter (!isBlank ·) = next :: rest.filter (!isBlank ·) :=
    List.filter_cons_of_pos (by rw [notBlank]; rfl)
  have keptFirst : (line :: next :: rest).filter (!isBlank ·) =
      line :: (next :: rest).filter (!isBlank ·) :=
    List.filter_cons_of_pos (by rw [isBlank_eq_false_of_nameToken? named]; rfl)
  unfold namesDeclared
  rw [keptFirst, kept, namesBeforeMethods_cons_cons, methods, if_pos rfl, named]
  rfl

end Declared

/-- A name stands before methods exactly where two neighbouring lines say so. -/
theorem mem_namesBeforeMethods {lines : List (List Char)} {token : String} :
    token ∈ namesBeforeMethods lines ↔
      ∃ before first second after, lines = before ++ first :: second :: after ∧
        NameLine first token ∧ MethodsLine second := by
  induction lines with
  | nil =>
      refine iff_of_false List.not_mem_nil ?_
      intro adjacent
      obtain ⟨before, first, second, after, whole, _⟩ := adjacent
      exact List.append_ne_nil_of_right_ne_nil before (List.cons_ne_nil first _) whole.symm
  | cons line rest inductionHypothesis =>
      cases rest with
      | nil =>
          refine iff_of_false List.not_mem_nil ?_
          intro adjacent
          obtain ⟨before, first, second, after, whole, _⟩ := adjacent
          have lengths := congrArg List.length whole
          simp only [List.length_cons, List.length_append, List.length_nil] at lengths
          omega
      | cons next rest =>
          rw [namesBeforeMethods_cons_cons, List.mem_append, inductionHypothesis]
          have here : token ∈ (if startsWith "baseMethods".toList (trimStart next) then
              (nameToken? line).toList else []) ↔ NameLine line token ∧ MethodsLine next := by
            rw [← nameToken?_eq_some_iff, ← startsWith_methods_iff]
            by_cases methods : startsWith "baseMethods".toList (trimStart next) = true
            · rw [if_pos methods, Option.mem_toList]
              exact (and_iff_left methods).symm
            · rw [if_neg methods]
              exact iff_of_false List.not_mem_nil fun both => methods both.2
          rw [here]
          constructor
          · intro found
            rcases found with ⟨named, methods⟩ | ⟨before, first, second, after, whole, adjacent⟩
            · exact ⟨[], line, next, rest, rfl, named, methods⟩
            · exact ⟨line :: before, first, second, after, by rw [whole, List.cons_append], adjacent⟩
          · intro adjacent
            obtain ⟨before, first, second, after, whole, named, methods⟩ := adjacent
            cases before with
            | nil =>
                obtain ⟨rfl, later⟩ := List.cons.inj whole
                obtain ⟨rfl, _⟩ := List.cons.inj later
                exact Or.inl ⟨named, methods⟩
            | cons head before =>
                exact Or.inr ⟨before, first, second, after, (List.cons.inj whole).2, named, methods⟩

/-- A dump declares a token exactly when two neighbouring lines of its class list do. -/
theorem mem_declaredClasses {dump : List Char} {token : String} :
    token ∈ declaredClasses dump ↔
      ∃ body ∈ sectionBody? dump classList, ∃ before first second after,
        writtenLines body = before ++ first :: second :: after ∧
          NameLine first token ∧ MethodsLine second := by
  unfold declaredClasses
  cases sectionBody? dump classList with
  | none => simp
  | some body =>
      simp only [Option.map_some, Option.getD_some, Option.mem_some_iff, exists_eq_left', declaredIn,
        NameSet.mem_ofList, mem_namesBeforeMethods, writtenLines]

/-- A dump references a token exactly when a line of its class references does. -/
theorem mem_referencedClasses {dump : List Char} {token : String} :
    token ∈ referencedClasses dump ↔
      ∃ body ∈ sectionBody? dump classReferences, ∃ line ∈ lines body,
        ClassReferenceLine line token := by
  unfold referencedClasses
  cases sectionBody? dump classReferences with
  | none => simp
  | some body =>
      simp only [Option.map_some, Option.getD_some, Option.mem_some_iff, exists_eq_left',
        referencedIn, NameSet.mem_ofList, List.mem_filterMap, classReference?_eq_some_iff]

/-! ### Marked texts -/

theorem markedTexts_nil : markedTexts [] = [] := by
  rw [markedTexts]

/-- A character that starts no mark is skipped. -/
theorem markedTexts_cons {c : Char} {rest : List Char}
    (noMark : after? selectorMark (c :: rest) = none) :
    markedTexts (c :: rest) = markedTexts rest := by
  rw [markedTexts.eq_def]
  dsimp only
  split
  · rename_i found
    exact absurd (found.symm.trans noMark) (Option.some_ne_none _)
  · rfl

/-- A mark gives the text after it, and the scan goes on behind that text. -/
theorem markedTexts_mark {rest : List Char} :
    markedTexts (selectorMark ++ rest) =
      rest.takeWhile inLine :: markedTexts (rest.dropWhile inLine) := by
  rw [markedTexts.eq_def]
  split
  · rename_i empty
    exact absurd (List.append_eq_nil_iff.mp empty).1 (by decide)
  · rename_i c more whole
    split
    · rename_i after found
      rw [← whole, after?_append] at found
      rw [Option.some.inj found]
    · rename_i found
      rw [← whole, after?_append] at found
      exact absurd found (Option.some_ne_none _)

end DeadSymbols.Dump
