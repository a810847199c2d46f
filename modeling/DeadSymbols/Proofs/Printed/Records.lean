import DeadSymbols.Proofs.Implements
import DeadSymbols.Proofs.Printed.Description

/-!
Contract: the class records of a written dump are the classes of its description.

The splitter goes through the lines with at most one open record. Lines that open no record leave
it idle; a record's header opens it, the record's own lines are collected, and `baseProtocols`
closes it before any ivar. So the body of a record holds the name of its class and of its methods
only, and parsing it gives the class that the entry describes, in both flavors.
-/

namespace DeadSymbols.Dump.Printed

open DeadSymbols.Text

/-! ### Splitting into records -/

/-- A line with its newline. -/
def Line.piece (line : Line) : List Char := line.text ++ ['\n']

theorem lineRole_piece (line : Line) : lineRole (dropLineEnd line.piece) = line.role := by
  rw [Line.piece, dropLineEnd_line (single_text line), lineRole_text]

theorem single_texts (lines : List Line) : ∀ text ∈ lines.map Line.text, SingleLine text := by
  intro text member
  obtain ⟨line, _, rfl⟩ := List.mem_map.mp member
  exact single_text line

theorem pieces_written (lines : List Line) : pieces (written lines) = lines.map Line.piece := by
  rw [written, pieces_unlines fun line member => (single_texts lines line member).1, List.map_map]
  rfl

theorem lines_written (lines : List Line) : Text.lines (written lines) = lines.map Line.text :=
  lines_unlines (single_texts lines)

section Splitting

variable {lines : List Line} {rest : List (List Char)}

/-- Without an open record, lines that open none are passed over. -/
theorem recordsFrom_idle (idle : ∀ line ∈ lines, ∀ flavor, line.role ≠ .header flavor) :
    recordsFrom none (lines.map Line.piece ++ rest) = recordsFrom none rest := by
  induction lines with
  | nil => rfl
  | cons line lines inductionHypothesis =>
      obtain ⟨here, later⟩ := List.forall_mem_cons.mp idle
      rw [List.map_cons, List.cons_append, recordsFrom, lineRole_piece]
      cases role : line.role with
      | header flavor => exact absurd role (here flavor)
      | terminator => exact inductionHypothesis later
      | content => exact inductionHypothesis later

/-- An open record collects the lines that do not close it. -/
theorem recordsFrom_collect {current : OpenRecord}
    (content : ∀ line ∈ lines, line.role = .content) :
    recordsFrom (some current) (lines.map Line.piece ++ rest) =
      recordsFrom
        (some { current with pieces := (lines.map Line.piece).reverse ++ current.pieces }) rest := by
  induction lines generalizing current with
  | nil => rfl
  | cons line lines inductionHypothesis =>
      obtain ⟨here, later⟩ := List.forall_mem_cons.mp content
      rw [List.map_cons, List.cons_append, recordsFrom, lineRole_piece, here]
      change recordsFrom (some { current with pieces := line.piece :: current.pieces }) _ = _
      rw [inductionHypothesis later, List.reverse_cons, List.append_assoc]
      rfl

end Splitting

/-- Lines that are content open no record. -/
theorem idle_of_content {lines : List Line} (content : ∀ line ∈ lines, line.role = .content) :
    ∀ line ∈ lines, ∀ flavor, line.role ≠ .header flavor := by
  intro line member flavor
  rw [content line member]
  exact nofun

theorem role_filler {fillers : List Filler} :
    ∀ line ∈ fillers.map Line.filler, line.role = .content := by
  intro line member
  obtain ⟨ignored, _, rfl⟩ := List.mem_map.mp member
  rfl

theorem MethodEntry.role_impLine (owner : Token) (method : MethodEntry) :
    (method.impLine owner).role = .content := by
  unfold MethodEntry.impLine
  cases method.implementation with
  | stripped => rfl
  | symbol sign closable => rfl

theorem MethodEntry.role_lines (owner : Token) (method : MethodEntry) :
    ∀ line ∈ method.lines owner, line.role = .content :=
  List.forall_mem_cons.mpr ⟨rfl, List.forall_mem_cons.mpr ⟨rfl,
    List.forall_mem_singleton.mpr (method.role_impLine owner)⟩⟩

theorem IvarEntry.role_lines (ivar : IvarEntry) : ∀ line ∈ ivar.lines, line.role = .content :=
  List.forall_mem_append.mpr ⟨role_filler, List.forall_mem_cons.mpr ⟨rfl,
    List.forall_mem_cons.mpr ⟨rfl, role_filler⟩⟩⟩

namespace ClassEntry

variable (entry : ClassEntry)

theorem role_body : ∀ line ∈ entry.body, line.role = .content := by
  have methods : ∀ line ∈ entry.methods.flatMap (MethodEntry.lines entry.token),
      line.role = .content := by
    intro line member
    obtain ⟨method, _, inMethod⟩ := List.mem_flatMap.mp member
    exact method.role_lines entry.token line inMethod
  exact List.forall_mem_append.mpr ⟨role_filler, List.forall_mem_cons.mpr ⟨rfl,
    List.forall_mem_cons.mpr ⟨rfl, List.forall_mem_append.mpr ⟨role_filler, methods⟩⟩⟩⟩

theorem role_tail : ∀ line ∈ entry.tail, line.role = .content := by
  have ivars : ∀ line ∈ entry.ivars.flatMap IvarEntry.lines, line.role = .content := by
    intro line member
    obtain ⟨ivar, _, inIvar⟩ := List.mem_flatMap.mp member
    exact ivar.role_lines line inIvar
  exact List.forall_mem_append.mpr ⟨role_filler, List.forall_mem_append.mpr ⟨ivars, role_filler⟩⟩

/-- The record of an entry, as the splitter should give it. -/
def record : RawRecord := { flavor := entry.flavor, body := written entry.body }

theorem recordsFrom_lines {rest : List (List Char)} :
    recordsFrom none (entry.lines.map Line.piece ++ rest) =
      entry.record :: recordsFrom none rest := by
  have closed : OpenRecord.close { flavor := entry.flavor, pieces :=
      (entry.body.map Line.piece).reverse ++ [] } = entry.record := by
    rw [OpenRecord.close, List.append_nil, List.reverse_reverse, record, written, unlines,
      List.flatMap_map]
    rfl
  calc
    recordsFrom none (entry.lines.map Line.piece ++ rest)
        = recordsFrom none ((Line.record entry.flavor entry.recordAddress).piece ::
            (entry.body.map Line.piece ++ ((Line.baseProtocols entry.protocolsAddress).piece ::
              (entry.tail.map Line.piece ++ rest)))) := by
          rw [lines, List.map_append, List.append_assoc, recordsFrom_idle (idle_of_content role_filler)]
          simp only [List.map_cons, List.map_append, List.cons_append, List.append_assoc]
    _ = recordsFrom (some { flavor := entry.flavor, pieces := [] })
            (entry.body.map Line.piece ++ ((Line.baseProtocols entry.protocolsAddress).piece ::
              (entry.tail.map Line.piece ++ rest))) := by
          rw [recordsFrom, lineRole_piece]
          rfl
    _ = entry.record :: recordsFrom none (entry.tail.map Line.piece ++ rest) := by
          rw [recordsFrom_collect entry.role_body, recordsFrom, lineRole_piece, ← closed]
          rfl
    _ = entry.record :: recordsFrom none rest := by
          rw [recordsFrom_idle (idle_of_content entry.role_tail)]

end ClassEntry

/-! ### Reading a record -/

section Reading

variable {lines : List Line} {rest : List (List Char)}

theorem name?_filler {fillers : List Filler} :
    ∀ line ∈ fillers.map Line.filler, line.name? = none := by
  intro line member
  obtain ⟨ignored, _, rfl⟩ := List.mem_map.mp member
  rfl

theorem classNameLine?_skip (nameless : ∀ line ∈ lines, line.name? = none) :
    classNameLine? (lines.map Line.text ++ rest) = classNameLine? rest := by
  apply classNameLine?_nameless
  intro text member
  obtain ⟨line, inLines, rfl⟩ := List.mem_map.mp member
  rw [nameToken?_text, nameless line inLines]

theorem nativeMethods_filler {pending : Option String} (fillers : List Filler) :
    nativeMethods pending ((fillers.map Line.filler).map Line.text ++ rest) =
      nativeMethods pending rest := by
  apply nativeMethods_asides
  intro text member
  obtain ⟨line, inLines, rfl⟩ := List.mem_map.mp member
  obtain ⟨ignored, _, rfl⟩ := List.mem_map.mp inLines
  exact ⟨nameToken?_text _, impLine?_text _⟩

/-- A method as a native record gives it. -/
def MethodEntry.outline (owner : Token) (method : MethodEntry) : MethodToken :=
  match method.implementation with
  | .stripped => { owner := none, selector := method.selector.name }
  | .symbol _ _ => { owner := some owner.name, selector := method.selector.name }

theorem MethodEntry.selector_outline (owner : Token) (method : MethodEntry) :
    (method.outline owner).selector = method.selector.name := by
  unfold MethodEntry.outline
  cases method.implementation with
  | stripped => rfl
  | symbol sign closable => rfl

theorem MethodEntry.owner_outline (owner : Token) (method : MethodEntry) :
    (method.outline owner).owner.getD owner.name = owner.name := by
  unfold MethodEntry.outline
  cases method.implementation with
  | stripped => rfl
  | symbol sign closable => rfl

/-- The three lines of a method give the method and leave no selector pending. -/
theorem MethodEntry.nativeMethods_lines (owner : Token) (method : MethodEntry) :
    nativeMethods none ((method.lines owner).map Line.text ++ rest) =
      method.outline owner :: nativeMethods none rest := by
  obtain ⟨selector, implementation, encoding, nameAddress, typesAddress, impAddress⟩ := method
  have named := nameToken?_text (.methodName nameAddress selector)
  have typed := nameToken?_text (.types typesAddress encoding)
  have typedImp := impLine?_text (.types typesAddress encoding)
  change nativeMethods none ((Line.methodName nameAddress selector).text ::
    (Line.types typesAddress encoding).text :: (MethodEntry.impLine owner _).text :: rest) = _
  rw [nativeMethods_name named, nativeMethods_other typed typedImp]
  cases implementation with
  | stripped => exact nativeMethods_stripped (nameToken?_text _) (impLine?_text _)
  | symbol sign closable => exact nativeMethods_symbol (nameToken?_text _) (impLine?_text _)

theorem nativeMethods_methods (owner : Token) (methods : List MethodEntry) :
    nativeMethods none ((methods.flatMap (MethodEntry.lines owner)).map Line.text) =
      methods.map (MethodEntry.outline owner) := by
  induction methods with
  | nil => rfl
  | cons method methods inductionHypothesis =>
      rw [List.flatMap_cons, List.map_append, method.nativeMethods_lines, inductionHypothesis,
        List.map_cons]

theorem filterMap_nameToken? (lines : List Line) :
    (lines.map Line.text).filterMap nameToken? = lines.filterMap Line.name? := by
  rw [List.filterMap_map]
  exact List.filterMap_congr fun line _ => nameToken?_text line

theorem MethodEntry.names_lines (owner : Token) (method : MethodEntry) :
    (method.lines owner).filterMap Line.name? = [method.selector.name] := by
  obtain ⟨selector, implementation, encoding, nameAddress, typesAddress, impAddress⟩ := method
  cases implementation with
  | stripped => rfl
  | symbol sign closable => rfl

theorem names_methods (owner : Token) (methods : List MethodEntry) :
    (methods.flatMap (MethodEntry.lines owner)).filterMap Line.name? =
      methods.map (·.selector.name) := by
  induction methods with
  | nil => rfl
  | cons method methods inductionHypothesis =>
      rw [List.flatMap_cons, List.filterMap_append, method.names_lines, inductionHypothesis]
      rfl

end Reading

namespace ClassEntry

variable (entry : ClassEntry)

/-- However the methods are given, they resolve to the methods of the entry's own class. -/
theorem resolve_outline (rename : String → String) (outline : MethodEntry → MethodToken)
    (selectors : ∀ method, (outline method).selector = method.selector.name)
    (owners : ∀ method, (outline method).owner.getD entry.token.name = entry.token.name) :
    Outline.resolve rename
        { className := entry.token.name, methods := entry.methods.map outline } =
      entry.described rename := by
  simp only [Outline.resolve, described, ClassEntry.selectors, List.filter_map, List.map_map,
    Function.comp_def, selectors, owners]

theorem classNameLine?_body :
    classNameLine? (Text.lines (written entry.body)) =
      some (entry.token.name, entry.methodLines.map Line.text) := by
  rw [lines_written, body, List.map_append, classNameLine?_skip name?_filler, List.map_cons,
    classNameLine?, nameToken?_text]
  rfl

theorem nativeMethods_methodLines :
    nativeMethods none (entry.methodLines.map Line.text) =
      entry.methods.map (MethodEntry.outline entry.token) := by
  rw [methodLines, List.map_cons, nativeMethods_other (nameToken?_text _) (impLine?_text _),
    List.map_append, nativeMethods_filler, nativeMethods_methods]

theorem bridgedMethods_methodLines :
    bridgedMethods (entry.methodLines.map Line.text) =
      entry.methods.map fun method => { owner := none, selector := method.selector.name } := by
  have nameless : (entry.beforeMethods.map Line.filler).filterMap Line.name? = [] :=
    List.filterMap_eq_nil_iff.mpr name?_filler
  rw [bridgedMethods, filterMap_nameToken?, methodLines, List.filterMap_cons_none rfl,
    List.filterMap_append, nameless, List.nil_append, names_methods, List.map_map]
  rfl

/-- Parsing the record of an entry gives the class that it describes. -/
theorem parse?_record (rename : String → String) :
    entry.record.parse? rename = some (entry.described rename) := by
  rw [RawRecord.parse?, RawRecord.outline?, record, classNameLine?_body]
  cases entry.flavor with
  | native =>
      simp only [Option.map_some, nativeMethods_methodLines]
      rw [entry.resolve_outline rename _ (MethodEntry.selector_outline entry.token)
        (MethodEntry.owner_outline entry.token)]
  | bridged =>
      simp only [Option.map_some, bridgedMethods_methodLines]
      rw [entry.resolve_outline rename _ (fun _ => rfl) (fun _ => rfl)]

end ClassEntry

end DeadSymbols.Dump.Printed
