import DeadSymbols.Proofs.Implements

/-!
Contract: the findings of the pure analysis, seen through their members.

A method is reported exactly when the dump implements its selector and the selector is neither
whitelisted nor referenced; a class is reported exactly when a declared token is renamed to it and
no referenced one is. The early answer for a dump without metadata is the answer that the
comparison gives as well, so no statement below needs the case.

Owns: the comparison, the members and the order of both lists of findings.
-/

namespace DeadSymbols

open DeadSymbols.Dump

variable {rename : String → String} {whitelist : NameSet} {dump selectorText : List Char}

/-- What the comparison of declared and referenced names gives, whether there is metadata or
not. -/
def Metadata.comparison (rename : String → String) (whitelist : NameSet) (metadata : Metadata) :
    Findings :=
  { unusedClasses :=
      unusedClasses (metadata.declared.image rename) (metadata.referenced.image rename)
    unusedMethods := unusedMethods (metadata.index rename) metadata.selectors whitelist }

/-- The early answer for empty metadata is that of the comparison. -/
theorem Metadata.findings_eq_comparison (metadata : Metadata) :
    metadata.findings rename whitelist = metadata.comparison rename whitelist := by
  unfold Metadata.findings
  split
  · rename_i empty
    obtain ⟨native, bridged, selectors, declared, referenced⟩ := metadata
    simp only [Metadata.isEmpty, Bool.and_eq_true, List.isEmpty_iff, NameSet.isEmpty_iff] at empty
    obtain ⟨⟨⟨⟨rfl, rfl⟩, rfl⟩, rfl⟩, rfl⟩ := empty
    have noMethods : unusedMethods
        ((indexRecords rename []).merge (indexRecords rename [])) ∅ whitelist = [] :=
      List.mergeSort_nil
    simp only [Metadata.comparison, Metadata.index, noMethods]
    rfl
  · rfl

/-! ### Methods -/

section Methods

variable {index : Index} {referenced : NameSet} {entry : String}

theorem mem_unusedMethods :
    entry ∈ unusedMethods index referenced whitelist ↔
      ∃ selector, index.Holds selector entry ∧ selector ∉ whitelist ∧ selector ∉ referenced := by
  rw [unusedMethods, List.mem_mergeSort, List.mem_flatMap]
  constructor
  · intro listed
    obtain ⟨⟨selector, signatures⟩, candidate, member⟩ := listed
    rw [List.mem_filter, Bool.and_eq_true, decide_eq_true_iff, decide_eq_true_iff] at candidate
    refine ⟨selector, ?_, candidate.2⟩
    exact Index.holds_iff_mem_entries.mpr ⟨signatures, candidate.1, member⟩
  · intro unused
    obtain ⟨selector, holds, allowed⟩ := unused
    obtain ⟨signatures, stored, member⟩ := Index.holds_iff_mem_entries.mp holds
    refine ⟨(selector, signatures), List.mem_filter.mpr ⟨stored, ?_⟩, member⟩
    rw [Bool.and_eq_true, decide_eq_true_iff, decide_eq_true_iff]
    exact allowed

/-- Sorting leaves no two equal entries when each signature stands under one selector. -/
theorem unusedMethods_ascending
    (unique : ∀ {selector otherSelector signature},
      index.Holds selector signature → index.Holds otherSelector signature →
        selector = otherSelector) :
    (unusedMethods index referenced whitelist).Pairwise (· < ·) := by
  apply mergeSort_ascending
  rw [List.nodup_flatMap]
  refine ⟨fun entry _ => entry.2.ascending.nodup, ?_⟩
  have keysAscend : index.entries.entries.Pairwise (fun left right => left.1 < right.1) :=
    List.pairwise_map.mp index.entries.ascending
  refine (keysAscend.filter _).imp_of_mem ?_
  intro left right leftMember rightMember keyBelow signature inLeft inRight
  have leftHolds : index.Holds left.1 signature :=
    Index.holds_iff_mem_entries.mpr ⟨left.2, (List.mem_filter.mp leftMember).1, inLeft⟩
  have rightHolds : index.Holds right.1 signature :=
    Index.holds_iff_mem_entries.mpr ⟨right.2, (List.mem_filter.mp rightMember).1, inRight⟩
  exact String.ne_of_lt keyBelow (unique leftHolds rightHolds)

end Methods

theorem analyze_eq_comparison :
    analyze rename whitelist dump selectorText =
      (Metadata.ofTexts dump selectorText).comparison rename whitelist :=
  Metadata.findings_eq_comparison _

/-- A reported method is a renamed signature of something the dump implements, under a selector
that is neither whitelisted nor referenced. -/
theorem mem_analyze_unusedMethods {entry : String} :
    entry ∈ (analyze rename whitelist dump selectorText).unusedMethods ↔
      ∃ token selector, Implemented dump token selector ∧ selector ∉ whitelist ∧
        selector ∉ referencedSelectors (selectorSource dump selectorText) ∧
        signature (rename token) selector = entry := by
  rw [analyze_eq_comparison]
  change entry ∈ unusedMethods _ (referencedSelectors _) whitelist ↔ _
  rw [mem_unusedMethods]
  constructor
  · intro unused
    obtain ⟨selector, holds, notWhitelisted, notReferenced⟩ := unused
    obtain ⟨token, implemented, same⟩ := holds_index_extract.mp holds
    exact ⟨token, selector, implemented, notWhitelisted, notReferenced, same⟩
  · intro unused
    obtain ⟨token, selector, implemented, notWhitelisted, notReferenced, same⟩ := unused
    exact ⟨selector, holds_index_extract.mpr ⟨token, implemented, same⟩, notWhitelisted,
      notReferenced⟩

/-- The same in terms of the parsed records. -/
theorem mem_analyze_unusedMethods_iff_parsed {entry : String} :
    entry ∈ (analyze rename whitelist dump selectorText).unusedMethods ↔
      ∃ record ∈ rawRecords dump, ∃ parsed ∈ record.parse? rename, ∃ method ∈ parsed.methods,
        method.signature = entry ∧ method.selector ∉ whitelist ∧
          method.selector ∉ referencedSelectors (selectorSource dump selectorText) := by
  rw [mem_analyze_unusedMethods]
  constructor
  · intro unused
    obtain ⟨token, selector, ⟨record, member, implements⟩, notWhitelisted, notReferenced, same⟩ :=
      unused
    obtain ⟨parsed, parsedFrom, inMethods⟩ :=
      exists_mem_methods_iff.mpr ⟨token, selector, implements, rfl⟩
    exact ⟨record, member, parsed, parsedFrom, _, inMethods, same, notWhitelisted, notReferenced⟩
  · intro given
    obtain ⟨record, member, parsed, parsedFrom, method, inMethods, same, allowed⟩ := given
    obtain ⟨token, selector, implements, rfl⟩ :=
      exists_mem_methods_iff.mp ⟨parsed, parsedFrom, inMethods⟩
    exact ⟨token, selector, ⟨record, member, implements⟩, allowed.1, allowed.2, same⟩

theorem analyze_unusedMethods_ascending :
    (analyze rename whitelist dump selectorText).unusedMethods.Pairwise (· < ·) := by
  rw [analyze_eq_comparison]
  exact unusedMethods_ascending holds_index_extract_unique

/-! ### Classes -/

/-- A reported class is the name of a declared token, and of no referenced one. -/
theorem mem_analyze_unusedClasses {name : String} :
    name ∈ (analyze rename whitelist dump selectorText).unusedClasses ↔
      (∃ token ∈ declaredClasses dump, rename token = name) ∧
        ∀ token ∈ referencedClasses dump, rename token ≠ name := by
  rw [analyze_eq_comparison]
  change name ∈ ((declaredClasses dump).image rename).diff ((referencedClasses dump).image rename) ↔ _
  rw [NameSet.mem_diff, NameSet.mem_image, NameSet.mem_image]
  simp only [not_exists, not_and, ne_eq]

theorem analyze_unusedClasses_ascending :
    (analyze rename whitelist dump selectorText).unusedClasses.Pairwise (· < ·) := by
  rw [analyze_eq_comparison]
  exact NameSet.ascending _

end DeadSymbols
