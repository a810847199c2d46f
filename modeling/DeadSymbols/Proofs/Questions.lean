import DeadSymbols.Proofs.Effects
import DeadSymbols.Proofs.Flavors
import DeadSymbols.Proofs.Memo

/-!
Contract: what an analysis asks for, and when it runs the demangling tool.

Which names an analysis asks for is fixed by its texts: no answer has an influence on it. It asks for the
class tokens of the native records, then of the bridged ones, then for the declared and the referenced
classes, and does nothing else with its demangler. A memo passes every name on where it occurs first, and
of these the tool is run on the mangled ones. So the tool is run once on each mangled class token of the
dump and on nothing else, whatever it answers and whether it can be found at all.

Owns: `Asks`, the questions of an analysis, class tokens, the runs of the tool.
-/

namespace DeadSymbols

open DeadSymbols.Dump
open DeadSymbols.Host
open DeadSymbols.Name
open DeadSymbols.Text

variable {σ α β : Type} {demangler : Demangler σ} {names later : List String}

/-! ### Questions in turn -/

/-- All that a computation does to the state is to ask for the names, one after another. -/
def Asks (demangler : Demangler σ) (names : List String) (action : StateM σ α) : Prop :=
  ∀ state, (action state).2 = (askAll demangler names state).2

namespace Asks

protected theorem pure (result : α) : Asks demangler [] (pure result) := fun _ => rfl

protected theorem bind {action : StateM σ α} {next : α → StateM σ β}
    (first : Asks demangler names action) (second : ∀ result, Asks demangler later (next result)) :
    Asks demangler (names ++ later) (action >>= next) := by
  intro state
  rw [askAll_append, ← first state]
  exact second (action state).1 (action state).2

theorem map {action : StateM σ α} (asks : Asks demangler names action) (f : α → β) :
    Asks demangler names (action >>= fun result => pure (f result)) := asks

theorem resolveAll (demangler : Demangler σ) (names : List String) :
    Asks demangler names (resolveAll demangler names) := by
  induction names with
  | nil => exact Asks.pure []
  | cons name later inductionHypothesis =>
      intro state
      exact inductionHypothesis (demangler name state).2

end Asks

/-- The class tokens of records, in the order in which they are asked for. -/
def recordTokens (records : List RawRecord) : List String :=
  (records.filterMap RawRecord.outline?).flatMap Outline.classTokens

/-- The names that the analysis of metadata asks for. -/
def Metadata.questions (metadata : Metadata) : List String :=
  recordTokens metadata.native ++ recordTokens metadata.bridged ++
    (metadata.declared.toList ++ metadata.referenced.toList)

namespace Asks

theorem parseWith? (demangler : Demangler σ) (record : RawRecord) :
    Asks demangler (recordTokens [record]) (record.parseWith? demangler) := by
  unfold RawRecord.parseWith?
  cases found : record.outline? with
  | none => simpa [recordTokens, found] using Asks.pure none
  | some outline => simpa [recordTokens, found] using (resolveAll demangler _).map _

theorem parseRecordsWith (demangler : Demangler σ) (records : List RawRecord) :
    Asks demangler (recordTokens records) (parseRecordsWith demangler records) := by
  induction records with
  | nil => exact Asks.pure []
  | cons record others inductionHypothesis =>
      have split : recordTokens (record :: others) = recordTokens [record] ++ recordTokens others := by
        rw [← List.singleton_append, recordTokens, List.filterMap_append, List.flatMap_append]
        rfl
      rw [split]
      exact (parseWith? demangler record).bind fun parsed => inductionHypothesis.map _

theorem resolveSet (demangler : Demangler σ) (names : NameSet) :
    Asks demangler names.toList (resolveSet demangler names) :=
  (resolveAll demangler names.toList).map _

theorem analyzeWith (demangler : Demangler σ) (whitelist : NameSet)
    (dump selectorText : List Char) :
    Asks demangler (Metadata.ofTexts dump selectorText).questions
      (analyzeWith demangler whitelist dump selectorText) := by
  unfold DeadSymbols.analyzeWith
  generalize Metadata.ofTexts dump selectorText = metadata
  dsimp only
  cases empty : metadata.isEmpty with
  | true =>
      -- Without metadata there is nothing to ask for, so answering early leaves no question out.
      obtain ⟨native, bridged, selectors, declared, referenced⟩ := metadata
      simp only [Metadata.isEmpty, Bool.and_eq_true, List.isEmpty_iff, NameSet.isEmpty_iff] at empty
      obtain ⟨⟨⟨⟨rfl, rfl⟩, _⟩, rfl⟩, rfl⟩ := empty
      exact Asks.pure Findings.none
  | false =>
      refine Asks.bind ?_ fun index => ?_
      · refine Asks.bind ((parseRecordsWith demangler metadata.native).map _) fun native => ?_
        exact ((parseRecordsWith demangler metadata.bridged).map _).map _
      · refine (resolveSet demangler metadata.declared).bind fun declared => ?_
        exact (resolveSet demangler metadata.referenced).map _

end Asks

/-! ### Class tokens -/

/-- The string is a class token of the dump. -/
inductive ClassToken (dump : List Char) (token : String) : Prop where
  /-- It names the class of a record. -/
  | record {record : RawRecord} (inDump : record ∈ rawRecords dump)
      (named : className? record.body = some token)
  /-- It is the owner in a symbol of a native record, on a line behind the one with the class name.
  The teardown hook counts as any other method. -/
  | owner {record : RawRecord} {className selector : String} {rest : List (List Char)}
      {line : List Char} (inDump : record ∈ rawRecords dump) (native : record.flavor = .native)
      (named : classNameLine? (lines record.body) = some (className, rest)) (member : line ∈ rest)
      (symbol : impLine? line = some (.symbol token selector))
  | declared (member : token ∈ declaredClasses dump)
  | referenced (member : token ∈ referencedClasses dump)

/-- The owners in a native record are those in its symbols: what is pending never gives one. -/
theorem Dump.exists_owner_iff {pending : Option String} {rest : List (List Char)} {owner : String} :
    (∃ method ∈ nativeMethods pending rest, method.owner = some owner) ↔
      ∃ line ∈ rest, ∃ selector, impLine? line = some (.symbol owner selector) := by
  induction rest generalizing pending with
  | nil => simp [nativeMethods]
  | cons line rest inductionHypothesis =>
      cases implemented : impLine? line with
      | none =>
          cases named : nameToken? line with
          | some selector => simp [nativeMethods_name named, inductionHypothesis, implemented]
          | none => simp [nativeMethods_other named implemented, inductionHypothesis, implemented]
      | some imp =>
          have nameless := nameToken?_eq_none_of_imp implemented
          cases imp with
          | symbol other selector =>
              simp [nativeMethods_symbol nameless implemented, inductionHypothesis, implemented]
          | stripped =>
              cases pending with
              | none => simp [nativeMethods_stripped nameless implemented, inductionHypothesis, implemented]
              | some selector =>
                  simp [nativeMethods_stripped nameless implemented, inductionHypothesis, implemented]

theorem mem_recordTokens {records : List RawRecord} {token : String} :
    token ∈ recordTokens records ↔
      ∃ record ∈ records, ∃ className rest,
        classNameLine? (lines record.body) = some (className, rest) ∧
          (token = className ∨ record.flavor = .native ∧
            ∃ line ∈ rest, ∃ selector, impLine? line = some (.symbol token selector)) := by
  have outlined (record : RawRecord) : (∃ outline, record.outline? = some outline ∧
      token ∈ outline.classTokens) ↔ ∃ className rest,
        classNameLine? (lines record.body) = some (className, rest) ∧
          (token = className ∨ record.flavor = .native ∧
            ∃ line ∈ rest, ∃ selector, impLine? line = some (.symbol token selector)) := by
    unfold RawRecord.outline?
    cases named : classNameLine? (lines record.body) with
    | none => simp
    | some found =>
        obtain ⟨className, rest⟩ := found
        cases flavor : record.flavor with
        | native => simp [Outline.classTokens, exists_owner_iff]
        | bridged => simp [Outline.classTokens, bridgedMethods]
  simp only [recordTokens, List.mem_flatMap, List.mem_filterMap, ← outlined]
  grind

/-- An analysis asks for the class tokens of its dump. -/
theorem mem_questions {dump selectorText : List Char} {token : String} :
    token ∈ (Metadata.ofTexts dump selectorText).questions ↔ ClassToken dump token := by
  -- Every record is native or bridged, so the two halves together are all records.
  have halves : (token ∈ recordTokens (Metadata.ofTexts dump selectorText).native ∨
      token ∈ recordTokens (Metadata.ofTexts dump selectorText).bridged) ↔
        token ∈ recordTokens (rawRecords dump) := by
    show token ∈ recordTokens ((rawRecords dump).filter (·.flavor = .native)) ∨
      token ∈ recordTokens ((rawRecords dump).filter (·.flavor = .bridged)) ↔ _
    simp only [mem_recordTokens, List.mem_filter, decide_eq_true_eq]
    constructor
    · rintro (⟨record, ⟨inDump, _⟩, here⟩ | ⟨record, ⟨inDump, _⟩, here⟩)
      · exact ⟨record, inDump, here⟩
      · exact ⟨record, inDump, here⟩
    · rintro ⟨record, inDump, here⟩
      cases flavor : record.flavor with
      | native => exact Or.inl ⟨record, ⟨inDump, flavor⟩, here⟩
      | bridged => exact Or.inr ⟨record, ⟨inDump, flavor⟩, here⟩
  rw [Metadata.questions, List.mem_append, List.mem_append, List.mem_append, halves, mem_recordTokens]
  constructor
  · rintro (⟨record, inDump, className, rest, named, here⟩ | declared | referenced)
    · rcases here with rfl | ⟨native, line, member, selector, symbol⟩
      · exact .record inDump (by rw [className?, named, Option.map_some])
      · exact .owner inDump native named member symbol
    · exact .declared declared
    · exact .referenced referenced
  · intro isToken
    cases isToken with
    | record inDump named =>
        obtain ⟨⟨className, rest⟩, found, rfl⟩ := Option.map_eq_some_iff.mp named
        exact Or.inl ⟨_, inDump, className, rest, found, Or.inl rfl⟩
    | owner inDump native named member symbol =>
        exact Or.inl ⟨_, inDump, _, _, named, Or.inr ⟨native, _, member, _, symbol⟩⟩
    | declared member => exact Or.inr (Or.inl member)
    | referenced member => exact Or.inr (Or.inr member)

/-! ### Questions that reach the tool -/

namespace Name

variable {τ : Type} {related : σ → τ → Prop} {first : Demangler σ} {second : Demangler τ}

theorem memo_alike (alike : ∀ name, Alike related (first name) (second name)) (name : String) :
    Alike (Alike.Beside related) (memo first name) (memo second name) := by
  rintro ⟨cache, left⟩ ⟨_, right⟩ ⟨rfl, holds⟩
  cases found : cache.get? name with
  | some given =>
      rw [memo_hit found, memo_hit found]
      exact ⟨rfl, rfl, holds⟩
  | none =>
      obtain ⟨same, after⟩ := alike name left right holds
      rw [memo_miss found, memo_miss found, same]
      exact ⟨rfl, rfl, after⟩

theorem onlyMangled_alike (alike : ∀ name, Alike related (first name) (second name)) (name : String) :
    Alike related (onlyMangled first name) (onlyMangled second name) := by
  unfold onlyMangled
  split
  · exact alike name
  · exact Alike.pure none

/-- The transcript beside a state shows in nothing but itself. -/
theorem transcribing_alike (inner : Demangler σ) (name : String) :
    Alike (fun written state => written.1 = state) (transcribing inner name) (inner name) := by
  rintro ⟨state, transcript⟩ _ rfl
  exact ⟨rfl, rfl⟩

theorem askAll_onlyMangled (ask : Demangler σ) (names : List String) (state : σ) :
    (askAll (onlyMangled ask) names state).2 = (askAll ask (names.filter isMangled) state).2 := by
  induction names generalizing state with
  | nil => rfl
  | cons name later inductionHypothesis =>
      rw [askAll_cons, inductionHypothesis]
      cases mangled : isMangled name with
      | true => rw [List.filter_cons_of_pos mangled, askAll_cons, onlyMangled, if_pos mangled]
      | false =>
          rw [List.filter_cons_of_neg (by simp [mangled]), onlyMangled, mangled]
          rfl

/-- The run of the tool on a name, if the host has the tool. -/
def toolRun? (host : Host) (path : Option String) (name : String) : Option (List String) :=
  (host.program (toolCommand host path name).1 (toolCommand host path name).2).toOption.map
    fun program => program.label :: (toolCommand host path name).2

theorem ran_askTool (path : Option String) (host : Host) (name : String) :
    Ran (toolRun? host path name).toList host (askTool path name host).2 := by
  rw [askTool_eq, toolRun?]
  cases found : host.program (toolCommand host path name).1 (toolCommand host path name).2 with
  | error error =>
      rw [run_error found]
      exact quiet_toolAnswer _ host
  | ok program =>
      rw [run_ok found]
      exact Ran.trans ⟨host.log, host.schedules, rfl⟩ (quiet_toolAnswer _ _)

theorem ran_askAll_askTool (path : Option String) (names : List String) (host : Host) :
    Ran (names.filterMap (toolRun? host path)) host (askAll (askTool path) names host).2 := by
  induction names generalizing host with
  | nil => exact Ran.refl host
  | cons name later inductionHypothesis =>
      have ran := ran_askTool path host name
      have same : toolRun? (askTool path name host).2 path = toolRun? host path := by
        funext other
        rw [toolRun?, toolRun?, toolCommand_samePlace ran.samePlace, ran.samePlace.program_eq]
      have whole := ran.trans (inductionHypothesis (askTool path name host).2)
      rw [same] at whole
      rw [askAll_cons]
      cases runs : toolRun? host path name with
      | none => simpa [runs] using whole
      | some run => simpa [runs] using whole

end Name

/-! ### Once per mangled token -/

/-- The names that an analysis through a memo passes on to a demangler of mangled names. -/
theorem analyzeWith_passes_on (ask : Demangler σ) (whitelist : NameSet)
    (dump selectorText : List Char) (state : σ) :
    (analyzeWith (memo (onlyMangled ask)) whitelist dump selectorText (∅, state)).2.2 =
      (askAll ask ((Metadata.ofTexts dump selectorText).questions.eraseDups.filter isMangled)
        state).2 := by
  rw [Asks.analyzeWith, (askAll_memo (onlyMangled ask) _ ∅ state).2, unseen_empty,
    askAll_onlyMangled]

/-- An analysis in turn, through a memo around the demangling tool, seen with the transcript of the tool.
The transcript shows in nothing else. The tool is attempted once for every mangled class token of the
dump and for no other string, one that is a selector only included. Of the attempts, those are runs on the
host for which it has the tool, in the same order. -/
theorem tool_asked_once_per_mangled_token (path : Option String) (whitelist : NameSet)
    (dump selectorText : List Char) (host : Host) :
    let written := analyzeWith (memo (onlyMangled (transcribing (askTool path)))) whitelist dump
      selectorText (∅, (host, []))
    let plain := analyzeWith (memo (tool path)) whitelist dump selectorText (∅, host)
    let attempts := written.2.2.2.map Prod.fst
    (plain.1 = written.1 ∧ plain.2.2 = written.2.2.1) ∧
      attempts.Nodup ∧
      (∀ name, name ∈ attempts ↔ isMangled name = true ∧ ClassToken dump name) ∧
      plain.2.2.runs = host.runs ++ attempts.filterMap (toolRun? host path) := by
  intro written plain attempts
  obtain ⟨findings, _, sameHost⟩ :=
    Alike.analyzeWith (memo_alike (onlyMangled_alike (transcribing_alike (askTool path)))) whitelist
      dump selectorText (∅, (host, [])) (∅, host) ⟨rfl, rfl⟩
  have passed := analyzeWith_passes_on (transcribing (askTool path)) whitelist dump selectorText
    (host, [])
  rw [askAll_transcribing] at passed
  generalize asked : (Metadata.ofTexts dump selectorText).questions.eraseDups.filter isMangled =
    names at passed
  have listed : attempts = names := by
    show written.2.2.2.map Prod.fst = names
    rw [show written.2.2 = _ from passed, List.nil_append,
      List.map_fst_zip (length_askAll (askTool path) names host).ge]
  refine ⟨⟨findings.symm, sameHost.symm⟩, ?_, ?_, ?_⟩
  · rw [listed, ← asked, ← unseen_empty]
    exact (nodup_unseen ∅ _).filter _
  · intro name
    rw [listed, ← asked, List.mem_filter, List.mem_eraseDups, mem_questions, and_comm]
  · have ran := (ran_askAll_askTool path names host).runs
    rw [listed, ← ran, show plain.2.2 = written.2.2.1 from sameHost.symm,
      show written.2.2 = _ from passed]

end DeadSymbols
