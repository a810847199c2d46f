import DeadSymbols.Proofs.Findings
import DeadSymbols.Proofs.Json.Unambiguous
import DeadSymbols.Proofs.Lines
import DeadSymbols.Proofs.References
import DeadSymbols.Proofs.Resolution
import DeadSymbols.Report.Render

/-!
Contract: a report as plain text loses nothing, as long as its entries stay on their lines.

The text is written line by line: each list has a line with its length and one line per entry. Without
newlines in the entries the text gives its lines back, and the first length says where the second list
starts, so entries may be empty or look like a heading themselves. What an analysis reports under the
names of the dump is made of words of its lines, and these hold no newline.

Owns: the lines of a text report, `NewlineFree`.
-/

namespace DeadSymbols

open DeadSymbols.Dump
open DeadSymbols.Name
open DeadSymbols.Text

/-! ### Lines of a report -/

namespace Report

variable {title : String} {entries others : List String}

/-- The line that opens a list. -/
def heading (title : String) (count : Nat) : List Char :=
  title.toList ++ " (".toList ++ Nat.toDigits 10 count ++ "):".toList

/-- The lines of a list: its heading and its entries. -/
def listLines (title : String) (entries : List String) : List (List Char) :=
  heading title entries.length :: entries.map fun entry => "  ".toList ++ entry.toList

theorem textList_eq_unlines : textList title entries = unlines (listLines title entries) := by
  have body : (entries.flatMap fun entry => "  ".toList ++ entry.toList ++ "\n".toList) =
      unlines (entries.map fun entry => "  ".toList ++ entry.toList) := by
    rw [unlines, List.flatMap_map]
    rfl
  have shape (front digits tail : List Char) :
      front ++ digits ++ "):\n".toList ++ tail = front ++ digits ++ "):".toList ++ '\n' :: tail := by
    simp
  rw [textList, body, listLines, unlines_cons, heading, shape]

/-- The lines of a report. -/
def textLines (findings : Findings) : List (List Char) :=
  listLines "Possibly unused methods" findings.unusedMethods ++
    listLines "Possibly unused classes" findings.unusedClasses

theorem renderText_eq_unlines (findings : Findings) :
    renderText findings = unlines (textLines findings) := by
  rw [renderText, textList_eq_unlines, textList_eq_unlines, ← unlines_append, textLines]

theorem heading_injective (title : String) : Function.Injective (heading title) := by
  intro count other same
  exact Json.toDigits_injective (List.append_cancel_left (List.append_cancel_right same))

/-- Lists of lines that start with lists of a report agree in them: the first line gives the length. -/
theorem listLines_append_inj {rest otherRest : List (List Char)}
    (same : listLines title entries ++ rest = listLines title others ++ otherRest) :
    entries = others ∧ rest = otherRest := by
  rw [listLines, listLines, List.cons_append, List.cons_append] at same
  obtain ⟨headings, bodies⟩ := List.cons.inj same
  have lengths : entries.length = others.length := heading_injective title headings
  obtain ⟨lines, rests⟩ := List.append_inj bodies (by simp [lengths])
  refine ⟨?_, rests⟩
  refine (List.map_inj_right fun entry other indented => ?_).mp lines
  exact String.toList_inj.mp (List.append_cancel_left indented)

end Report

open DeadSymbols.Report

/-! ### Entries without newlines -/

/-- No entry holds a newline. -/
structure Findings.NewlineFree (findings : Findings) : Prop where
  methods : ∀ entry ∈ findings.unusedMethods, '\n' ∉ entry.toList
  classes : ∀ entry ∈ findings.unusedClasses, '\n' ∉ entry.toList

instance (findings : Findings) : Decidable findings.NewlineFree :=
  decidable_of_iff
    ((findings.unusedMethods ++ findings.unusedClasses).all (!·.toList.contains '\n') = true)
    ⟨fun test => ⟨by simp_all, by simp_all⟩,
      fun free => by simpa using ⟨free.methods, free.classes⟩⟩

theorem Report.newline_not_mem_heading {title : String} (single : '\n' ∉ title.toList) (count : Nat) :
    '\n' ∉ heading title count := by
  have digits : '\n' ∉ Nat.toDigits 10 count := not_mem_toDigits (by decide) count
  simp [heading, single, digits]

theorem Report.newline_not_mem_listLines {title : String} {entries : List String}
    (single : '\n' ∉ title.toList) (free : ∀ entry ∈ entries, '\n' ∉ entry.toList) :
    ∀ line ∈ listLines title entries, '\n' ∉ line := by
  refine List.forall_mem_cons.mpr ⟨newline_not_mem_heading single _, ?_⟩
  intro line member
  obtain ⟨entry, inEntries, rfl⟩ := List.mem_map.mp member
  simp [free entry inEntries]

theorem Findings.NewlineFree.textLines {findings : Findings} (free : findings.NewlineFree) :
    ∀ line ∈ textLines findings, '\n' ∉ line :=
  List.forall_mem_append.mpr
    ⟨newline_not_mem_listLines (by decide) free.methods,
      newline_not_mem_listLines (by decide) free.classes⟩

theorem Findings.NewlineFree.length_lines {findings : Findings} (free : findings.NewlineFree) :
    (lines (renderText findings)).length =
      2 + findings.unusedMethods.length + findings.unusedClasses.length := by
  rw [renderText_eq_unlines, lines, List.length_map, pieces_unlines free.textLines]
  simp only [Report.textLines, listLines, List.length_map, List.length_append, List.length_cons]
  omega

/-- Under the names of the dump, what is reported is made of words. -/
theorem analyze_newlineFree (whitelist : NameSet) (dump selectorText : List Char) :
    (analyze id whitelist dump selectorText).NewlineFree := by
  constructor
  · intro entry reported
    obtain ⟨token, selector, ⟨record, _, implements⟩, _, _, rfl⟩ := mem_analyze_unusedMethods.mp reported
    have words := implements.isWord
    rw [toList_signature]
    simp [words.1.single.1, words.2.single.1]
  · intro entry reported
    obtain ⟨⟨token, declared, rfl⟩, _⟩ := mem_analyze_unusedClasses.mp reported
    obtain ⟨_, _, _, line, _, _, _, named, _⟩ := mem_declaredClasses.mp declared
    exact (nameToken?_isWord (nameToken?_eq_some_iff.mpr named)).single.1

/-! ### The text determines the report -/

/-- Reports without newlines in their entries are the same when their texts are. What an analysis
reports under the names of the dump is such a report, and its text has a line for each entry and one for
each of the two lists. -/
theorem renderText_loses_nothing :
    (∀ first second : Findings, first.NewlineFree → second.NewlineFree →
        renderText first = renderText second → first = second) ∧
      ∀ {σ : Type} (whitelist : NameSet) (dump selectorText : List Char) (state : σ),
        let findings := (analyzeWith identity whitelist dump selectorText state).1
        findings.NewlineFree ∧
          (lines (renderText findings)).length =
            2 + findings.unusedMethods.length + findings.unusedClasses.length := by
  constructor
  · intro first second free otherFree same
    rw [renderText_eq_unlines, renderText_eq_unlines] at same
    obtain ⟨methods, rest⟩ :=
      listLines_append_inj (unlines_inj free.textLines otherFree.textLines same)
    have padded : listLines "Possibly unused classes" first.unusedClasses ++ [] =
        listLines "Possibly unused classes" second.unusedClasses ++ [] := by rw [rest]
    obtain ⟨classes, _⟩ := listLines_append_inj padded
    cases first
    cases second
    simp_all
  · intro σ whitelist dump selectorText state findings
    have pure : findings = analyze id whitelist dump selectorText :=
      identity_answersBy.analyzeWith whitelist dump selectorText state
    have free : findings.NewlineFree := pure ▸ analyze_newlineFree whitelist dump selectorText
    exact ⟨free, free.length_lines⟩

/-- Entries that look like headings, or are empty, in either list. -/
theorem renderText_loses_nothing_posing :
    let posing : Findings :=
      { unusedMethods := ["Possibly unused classes (1):", ""], unusedClasses := [""] }
    let shifted : Findings :=
      { unusedMethods := ["Possibly unused classes (1):"], unusedClasses := ["", ""] }
    posing.NewlineFree ∧ shifted.NewlineFree ∧ renderText posing ≠ renderText shifted := by
  intro posing shifted
  have free : posing.NewlineFree := by decide
  have shiftedFree : shifted.NewlineFree := by decide
  refine ⟨free, shiftedFree, fun same => ?_⟩
  have equal := renderText_loses_nothing.1 posing shifted free shiftedFree same
  exact absurd equal (by decide)

end DeadSymbols
