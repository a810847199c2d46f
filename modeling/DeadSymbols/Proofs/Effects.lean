import DeadSymbols.Command.Analyze
import DeadSymbols.Proofs.Simulation

/-!
Contract: what an analysis does to its host while it looks and asks.

Until its report is delivered, an analysis only logs, takes schedules and runs programs. `Ran` says
so, with the runs it made; what a host gives to read or to run is the same before and after. The
demangling tool therefore answers by name all the while, and the analysis of two texts is the pure
one whether records are read in turn or by pools, under every schedule.

Owns: `Ran`, the outcomes of a provider, the analysis of texts on a host.
-/

namespace DeadSymbols

open DeadSymbols.Dump
open DeadSymbols.Host

variable {α β : Type} {host before middle after : Host}

/-! ### Log, schedules and runs -/

namespace Host

/-- The hosts have the same files, programs and variables, seen from the same directory. -/
structure SamePlace (host other : Host) : Prop where
  tree : other.tree = host.tree
  workDir : other.workDir = host.workDir
  environment : other.environment = host.environment

namespace SamePlace

variable {other : Host}

theorem refl (host : Host) : SamePlace host host := ⟨rfl, rfl, rfl⟩

theorem trans {third : Host} (first : SamePlace host other) (second : SamePlace other third) :
    SamePlace host third :=
  ⟨second.tree.trans first.tree, second.workDir.trans first.workDir,
    second.environment.trans first.environment⟩

theorem envValue?_eq (same : SamePlace host other) (name : String) :
    other.envValue? name = host.envValue? name := by
  unfold Host.envValue?
  rw [same.environment]

theorem programAt_eq (same : SamePlace host other) (path : String) :
    other.programAt path = host.programAt path := by
  unfold Host.programAt
  rw [same.tree, same.workDir]

theorem programIn_eq (same : SamePlace host other) (name : String) (directories : List String) :
    other.programIn name directories = host.programIn name directories := by
  induction directories with
  | nil => rfl
  | cons directory rest inductionHypothesis =>
      unfold Host.programIn
      rw [same.programAt_eq, inductionHypothesis]

theorem program_eq (same : SamePlace host other) (name : String) (arguments : List String) :
    other.program name arguments = host.program name arguments := by
  unfold Host.program Host.searchPath
  rw [same.programAt_eq, same.programIn_eq, same.envValue?_eq]

theorem readText_eq (same : SamePlace host other) (path : String) :
    other.readText path = host.readText path := by
  unfold Host.readText
  rw [same.tree, same.workDir]

theorem isFile_eq (same : SamePlace host other) (path : String) :
    other.isFile path = host.isFile path := by
  unfold Host.isFile
  rw [same.tree, same.workDir]

theorem absolute_eq (same : SamePlace host other) (path : String) :
    other.absolute path = host.absolute path := by
  unfold Host.absolute Host.workPath
  rw [same.tree, same.workDir]

end SamePlace

/-- The hosts differ in log and schedules at most, and in the given runs, which came last. -/
def Ran (more : List (List String)) (before after : Host) : Prop :=
  ∃ log schedules, after = { before with runs := before.runs ++ more, log, schedules }

namespace Ran

variable {more others : List (List String)}

theorem refl (host : Host) : Ran [] host host := by
  refine ⟨host.log, host.schedules, ?_⟩
  rw [List.append_nil]

theorem trans (first : Ran more before middle) (second : Ran others middle after) :
    Ran (more ++ others) before after := by
  obtain ⟨_, _, rfl⟩ := first
  obtain ⟨log, schedules, rfl⟩ := second
  refine ⟨log, schedules, ?_⟩
  rw [List.append_assoc]

theorem log (host : Host) (lines : List LogLine) : Ran [] host { host with log := lines } := by
  refine ⟨lines, host.schedules, ?_⟩
  rw [List.append_nil]

theorem samePlace (ran : Ran more before after) : SamePlace before after := by
  obtain ⟨_, _, rfl⟩ := ran
  exact ⟨rfl, rfl, rfl⟩

theorem printed (ran : Ran more before after) : after.printed = before.printed := by
  obtain ⟨_, _, rfl⟩ := ran
  rfl

theorem storage (ran : Ran more before after) : after.storage = before.storage := by
  obtain ⟨_, _, rfl⟩ := ran
  rfl

theorem runs (ran : Ran more before after) : after.runs = before.runs ++ more := by
  obtain ⟨_, _, rfl⟩ := ran
  rfl

end Ran

theorem bind_eq (action : HostM α) (next : α → HostM β) :
    (action >>= next) host = next (action host).1 (action host).2 := rfl

theorem get_bind (next : Host → HostM α) : (get >>= next) host = next host host := rfl

/-- The action makes no runs and keeps all but log and schedules. -/
def Quiet (action : HostM α) : Prop := ∀ host, Ran [] host (action host).2

theorem quiet_pure (result : α) : Quiet (pure result) := fun host => Ran.refl host

theorem Quiet.bind {action : HostM α} {next : α → HostM β} (quiet : Quiet action)
    (goesOn : ∀ result, Quiet (next result)) : Quiet (action >>= next) :=
  fun host => (quiet host).trans (goesOn _ _)

theorem quiet_addLog (level : Level) (message : String) (fields : List (String × String)) :
    Quiet (addLog level message fields) :=
  fun host => Ran.log host _

theorem quiet_nextSchedule : Quiet nextSchedule := by
  intro host
  refine ⟨host.log, host.schedules.tail, ?_⟩
  rw [List.append_nil]
  rfl

theorem Quiet.ite (condition : Prop) [Decidable condition] {first second : HostM α}
    (one : Quiet first) (other : Quiet second) :
    Quiet (if condition then first else second) := by
  split
  · exact one
  · exact other

theorem quiet_forIn {items : List α} (initial : β) (body : α → β → HostM (ForInStep β))
    (quiet : ∀ item state, Quiet (body item state)) : Quiet (forIn items initial body) := by
  induction items generalizing initial with
  | nil => exact quiet_pure initial
  | cons item later inductionHypothesis =>
      rw [List.forIn_cons]
      refine (quiet item initial).bind fun step => ?_
      cases step with
      | done result => exact quiet_pure result
      | yield next => exact inductionHypothesis next

theorem run_fst (host : Host) (name : String) (arguments : List String) :
    (run name arguments host).1 =
      (host.program name arguments).map fun program => program.run arguments := by
  unfold run
  cases host.program name arguments <;> rfl

theorem run_error {name : String} {arguments : List String} {error : FileError}
    (missing : host.program name arguments = .error error) :
    run name arguments host = (.error error, host) := by
  simp only [run, missing]

theorem run_ok {name : String} {arguments : List String} {program : Program}
    (found : host.program name arguments = .ok program) :
    run name arguments host = (.ok (program.run arguments),
      { host with runs := host.runs ++ [program.label :: arguments] }) := by
  simp only [run, found]

end Host

namespace Command

theorem quiet_logExtraction (dump selectorText : List Char) (metadata : Metadata) :
    Quiet (logExtraction dump selectorText metadata) := by
  unfold logExtraction
  refine Quiet.ite _ ((quiet_addLog _ _ _).bind fun _ => ?_) ?_
  all_goals
    refine Quiet.bind ?_ fun _ => quiet_addLog _ _ _
    refine quiet_forIn _ _ fun name _ => Quiet.ite _ ?_ (quiet_pure _)
    exact (quiet_addLog _ _ _).bind fun _ => quiet_pure _

theorem quiet_logSkipped (records : List RawRecord) : Quiet (logSkipped records) := by
  induction records with
  | nil => exact quiet_pure ()
  | cons record later inductionHypothesis =>
      refine Quiet.bind ?_ fun _ => inductionHypothesis
      exact Quiet.ite _ (quiet_addLog _ _ _) (quiet_pure ())

end Command

/-! ### Providers -/

namespace Provider

variable {path : Option String} {text : DumpText} {binary content : String}

/-- The run of the dump tool that prints a text of an image. -/
def dumpRun (program : Program) (text : DumpText) (binary : String) : RunResult :=
  program.run (text.arguments ++ [binary])

/-- The provider has the text for an image: it stands in a file, or the dump tool prints it. -/
def Shows (host : Host) (text : DumpText) (binary content : String) : Provider → Prop
  | .files dump selectors =>
    host.readText (match text with | .metadata => dump | .selectors => selectors.getD dump) =
      .ok content
  | .tool path =>
    (∃ file, host.envValue? text.standIn = some file ∧ host.readText file = .ok content) ∨
      (host.envValue? text.standIn = none ∧ host.isFile binary = true ∧ ∃ program,
        host.program (toolPath host path) (text.arguments ++ [binary]) = .ok program ∧
          (dumpRun program text binary).succeeded = true ∧
          content = Text.ofBytesLossy (dumpRun program text binary).output)

theorem shows_samePlace {other : Host} (same : SamePlace host other) (provider : Provider) :
    provider.Shows other text binary content ↔ provider.Shows host text binary content := by
  cases provider with
  | files dump selectors => simp only [Shows, same.readText_eq]
  | tool path =>
      simp only [Shows, toolPath, same.envValue?_eq, same.readText_eq, same.isFile_eq,
        same.program_eq]

theorem readDump_eq_ok_iff {file : String} :
    readDump host file = .ok content ↔ host.readText file = .ok content := by
  unfold readDump
  cases host.readText file <;> simp [Except.mapError]

theorem toolText_eq_ok_iff {tool : String} {outcome : Except FileError RunResult} :
    toolText tool outcome = .ok content ↔
      ∃ result, outcome = .ok result ∧ result.succeeded = true ∧
        content = Text.ofBytesLossy result.output := by
  cases outcome with
  | error cause => simp [toolText]
  | ok result =>
      cases succeeded : result.succeeded with
      | true =>
          simp only [toolText, succeeded, if_true, Except.ok.injEq, exists_eq_left', true_and]
          exact eq_comm
      | false => simp [toolText, succeeded]

theorem provide_standIn {file : String} (stands : host.envValue? text.standIn = some file) :
    (Provider.tool path).provide text binary host = (readDump host file, host) := by
  simp only [provide, get_bind, stands]
  rfl

theorem provide_missing (absent : host.envValue? text.standIn = none)
    (missing : host.isFile binary = false) :
    (Provider.tool path).provide text binary host = (.error (.missingBinary binary), host) := by
  simp only [provide, get_bind, absent, missing]
  rfl

theorem provide_run (absent : host.envValue? text.standIn = none)
    (present : host.isFile binary = true) :
    (Provider.tool path).provide text binary host =
      runTool (toolPath host path) text.arguments binary host := by
  simp only [provide, get_bind, absent, present]
  rfl

theorem runTool_missing {tool : String} {arguments : List String} {error : FileError}
    (missing : host.program tool (arguments ++ [binary]) = .error error) :
    (runTool tool arguments binary host).1 = .error (.spawn tool error) ∧
      Ran [] host (runTool tool arguments binary host).2 := by
  have logged := quiet_addLog .debug "running otool"
    [("tool", tool), ("args", Text.quotedList arguments), ("binary", binary)] host
  rw [← logged.samePlace.program_eq] at missing
  simp only [runTool, bind_eq, run_error missing]
  exact ⟨rfl, logged⟩

theorem runTool_found {tool : String} {arguments : List String} {program : Program}
    (found : host.program tool (arguments ++ [binary]) = .ok program) :
    (runTool tool arguments binary host).1 =
        toolText tool (.ok (program.run (arguments ++ [binary]))) ∧
      Ran [program.label :: (arguments ++ [binary])] host
        (runTool tool arguments binary host).2 := by
  have logged := quiet_addLog .debug "running otool"
    [("tool", tool), ("args", Text.quotedList arguments), ("binary", binary)] host
  rw [← logged.samePlace.program_eq] at found
  simp only [runTool, bind_eq, run_ok found]
  exact ⟨rfl, logged.trans ⟨_, _, rfl⟩⟩

/-- Without a file that stands in, the dump tool is run once at most, and there is a text just when
it was run and ended well. -/
theorem provide_tool_cases (path : Option String) (binary : String)
    (absent : host.envValue? text.standIn = none) :
    (Ran [] host ((Provider.tool path).provide text binary host).2 ∧
        ∃ error, ((Provider.tool path).provide text binary host).1 = .error error) ∨
      (host.isFile binary = true ∧ ∃ program,
        host.program (toolPath host path) (text.arguments ++ [binary]) = .ok program ∧
          Ran [program.label :: (text.arguments ++ [binary])] host
            ((Provider.tool path).provide text binary host).2 ∧
          ((Provider.tool path).provide text binary host).1 =
            toolText (toolPath host path) (.ok (dumpRun program text binary))) := by
  cases present : host.isFile binary with
  | false =>
      rw [provide_missing absent present]
      exact Or.inl ⟨Ran.refl host, _, rfl⟩
  | true =>
      rw [provide_run absent present]
      cases found : host.program (toolPath host path) (text.arguments ++ [binary]) with
      | error error =>
          obtain ⟨result, ran⟩ := runTool_missing found
          exact Or.inl ⟨ran, _, result⟩
      | ok program =>
          obtain ⟨result, ran⟩ := runTool_found found
          exact Or.inr ⟨rfl, program, rfl, ran, result⟩

theorem provide_ran (provider : Provider) (text : DumpText) (binary : String) (host : Host) :
    ∃ more, Ran more host (provider.provide text binary host).2 := by
  cases provider with
  | files dump selectors => exact ⟨[], Ran.refl host⟩
  | tool path =>
      cases stands : host.envValue? text.standIn with
      | some file =>
          rw [provide_standIn stands]
          exact ⟨[], Ran.refl host⟩
      | none =>
          rcases provide_tool_cases path binary stands with ⟨ran, _⟩ | ⟨_, program, _, ran, _⟩
          · exact ⟨_, ran⟩
          · exact ⟨_, ran⟩

theorem provide_eq_ok_iff {provider : Provider} :
    (provider.provide text binary host).1 = .ok content ↔
      provider.Shows host text binary content := by
  cases provider with
  | files dump selectors => exact readDump_eq_ok_iff
  | tool path =>
      cases stands : host.envValue? text.standIn with
      | some file =>
          rw [provide_standIn stands]
          simp [Shows, stands, readDump_eq_ok_iff]
      | none =>
          cases present : host.isFile binary with
          | false =>
              rw [provide_missing stands present]
              simp [Shows, stands, present]
          | true =>
              rw [provide_run stands present]
              cases found : host.program (toolPath host path) (text.arguments ++ [binary]) with
              | error error =>
                  rw [(runTool_missing found).1]
                  simp [Shows, stands, found]
              | ok program =>
                  rw [(runTool_found found).1, toolText_eq_ok_iff]
                  simp [Shows, stands, present, found, dumpRun]

theorem shows_unique {provider : Provider} {other : String}
    (shows : provider.Shows host text binary content)
    (showsOther : provider.Shows host text binary other) : content = other := by
  rw [← provide_eq_ok_iff] at shows showsOther
  exact Except.ok.inj (shows.symm.trans showsOther)

end Provider

/-! ### The demangling tool -/

namespace Name

variable {path : Option String} {name : String}

/-- The run is a question to the demangling tool of the host. -/
def AsksTool (host : Host) (path : Option String) (run : List String) : Prop :=
  ∃ name program, isMangled name = true ∧
    host.program (toolCommand host path name).1 (toolCommand host path name).2 = .ok program ∧
    run = program.label :: (toolCommand host path name).2

/-- Since the first host, nothing was done but logging and asking the tool. -/
def Asked (path : Option String) (before after : Host) : Prop :=
  ∃ more, Ran more before after ∧ ∀ run ∈ more, AsksTool before path run

theorem Asked.refl (path : Option String) (host : Host) : Asked path host host :=
  ⟨[], Ran.refl host, List.forall_mem_nil _⟩

theorem Asked.quiet (asked : Asked path before middle) (ran : Ran [] middle after) :
    Asked path before after := by
  obtain ⟨more, soFar, questions⟩ := asked
  refine ⟨more ++ [], soFar.trans ran, ?_⟩
  rw [List.append_nil]
  exact questions

theorem quiet_toolAnswer (outcome : Except FileError RunResult) :
    Quiet (toolAnswer name outcome) := by
  cases outcome with
  | error error => exact (quiet_addLog _ _ _).bind fun _ => quiet_pure none
  | ok result =>
      refine Quiet.ite _ ((quiet_addLog _ _ _).bind fun _ => quiet_pure none) ?_
      exact Quiet.ite _ ((quiet_addLog _ _ _).bind fun _ => quiet_pure none) (quiet_pure _)

theorem toolAnswer_eq (outcome : Except FileError RunResult) (host other : Host) :
    (toolAnswer name outcome host).1 = (toolAnswer name outcome other).1 := by
  cases outcome with
  | error error => rfl
  | ok result =>
      unfold toolAnswer
      dsimp only
      split
      · rfl
      · split <;> rfl

theorem askTool_eq :
    askTool path name host =
      toolAnswer name (run (toolCommand host path name).1 (toolCommand host path name).2 host).1
        (run (toolCommand host path name).1 (toolCommand host path name).2 host).2 := rfl

/-- A question to the tool is one run at most. -/
theorem asked_askTool (path : Option String) (host : Host) (mangled : isMangled name = true) :
    Asked path host (askTool path name host).2 := by
  rw [askTool_eq]
  cases found : host.program (toolCommand host path name).1 (toolCommand host path name).2 with
  | error error =>
      rw [run_error found]
      exact ⟨[], quiet_toolAnswer _ host, List.forall_mem_nil _⟩
  | ok program =>
      rw [run_ok found]
      refine ⟨[_] ++ [], Ran.trans ⟨host.log, host.schedules, rfl⟩ (quiet_toolAnswer _ _), ?_⟩
      rw [List.append_nil, List.forall_mem_singleton]
      exact ⟨name, program, mangled, found, rfl⟩

theorem toolCommand_samePlace {other : Host} (same : SamePlace host other) :
    toolCommand other path name = toolCommand host path name := by
  rw [toolCommand, toolCommand, same.envValue?_eq]

theorem askTool_samePlace {other : Host} (same : SamePlace host other) :
    (askTool path name other).1 = (askTool path name host).1 := by
  rw [askTool_eq, askTool_eq, run_fst, run_fst, toolCommand_samePlace same, same.program_eq]
  exact toolAnswer_eq _ _ _

theorem tool_mangled (mangled : isMangled name = true) :
    tool path name host = askTool path name host := by
  rw [tool, onlyMangled, if_pos mangled]

theorem tool_plain (plain : isMangled name = false) : tool path name host = (none, host) := by
  rw [tool, onlyMangled, plain]
  rfl

theorem tool_samePlace {other : Host} (same : SamePlace host other) :
    (tool path name other).1 = (tool path name host).1 := by
  cases mangled : isMangled name with
  | true => rw [tool_mangled mangled, tool_mangled mangled, askTool_samePlace same]
  | false => rw [tool_plain mangled, tool_plain mangled]

theorem AsksTool.samePlace {other : Host} {run : List String} (asks : AsksTool other path run)
    (same : SamePlace host other) : AsksTool host path run := by
  obtain ⟨name, program, mangled, found, rfl⟩ := asks
  rw [toolCommand_samePlace same, same.program_eq] at found
  exact ⟨name, program, mangled, found, by rw [toolCommand_samePlace same]⟩

theorem tool_answersWhile (path : Option String) (host : Host) :
    AnswersWhile (Asked path host) (tool path) fun name => (tool path name host).1 := by
  rintro name after ⟨more, ran, questions⟩
  refine ⟨tool_samePlace ran.samePlace, ?_⟩
  cases mangled : isMangled name with
  | false =>
      rw [tool_plain mangled]
      exact ⟨more, ran, questions⟩
  | true =>
      rw [tool_mangled mangled]
      obtain ⟨last, ranLast, lastQuestions⟩ := asked_askTool path after mangled
      refine ⟨more ++ last, ran.trans ranLast, List.forall_mem_append.mpr ⟨questions, ?_⟩⟩
      intro run member
      exact (lastQuestions run member).samePlace ran.samePlace

end Name

/-! ### Analysis of texts -/

/-- The demangler that the settings ask for, without a memo. -/
def Settings.demangler (settings : Settings) : Name.Demangler Host :=
  if settings.demangle then Name.tool settings.demangleToolPath else Name.identity

/-- The answers of that demangler on a host. -/
def Settings.answer (settings : Settings) (host : Host) (name : String) : Option String :=
  (settings.demangler name host).1

theorem Settings.answersWhile (settings : Settings) (host : Host) :
    Name.AnswersWhile (Name.Asked settings.demangleToolPath host) settings.demangler
      (settings.answer host) := by
  unfold Settings.answer Settings.demangler
  cases settings.demangle with
  | true => exact Name.tool_answersWhile settings.demangleToolPath host
  | false => exact fun _ _ asked => ⟨rfl, asked⟩

theorem Settings.answer_samePlace {other : Host} (settings : Settings)
    (same : SamePlace host other) : settings.answer other = settings.answer host := by
  funext name
  unfold Settings.answer Settings.demangler
  cases settings.demangle with
  | true => exact Name.tool_samePlace same
  | false => rfl

namespace Command

open DeadSymbols.Name

variable {settings : Settings}

/-- The memo has right answers only, and nothing was done but logging and asking the tool. -/
def Steady (settings : Settings) (host : Host) : Cache × Host → Prop :=
  Memoized (settings.answer host) (Asked settings.demangleToolPath host)

theorem demanglerFor_answersWhile (settings : Settings) (host : Host) :
    AnswersWhile (Steady settings host) (demanglerFor settings) (settings.answer host) := by
  have answers := settings.answersWhile host
  unfold demanglerFor
  cases demangle : settings.demangle with
  | true =>
      rw [Settings.demangler, demangle] at answers
      exact answers.memo
  | false =>
      rintro name state steady
      refine ⟨?_, steady⟩
      rw [Settings.answer, Settings.demangler, demangle]
      rfl

theorem keeps_besideCache {action : HostM α} (quiet : Quiet action) :
    Keeps (Steady settings host) (besideCache action) :=
  fun state steady => ⟨steady.1, steady.2.quiet (quiet state.2)⟩

theorem indexRecords_yields (settings : Settings) (host : Host) (records : List RawRecord) :
    Yields (Steady settings host) (indexRecords settings records)
      (DeadSymbols.indexRecords (naming (settings.answer host)) records) := by
  have answers := demanglerFor_answersWhile settings host
  unfold indexRecords
  cases settings.parallel with
  | false => exact answers.indexRecordsWith records
  | true =>
      refine (keeps_besideCache quiet_nextSchedule).bind fun schedule => ?_
      cases demangle : settings.demangle with
      | true =>
          have direct := settings.answersWhile host
          rw [Settings.demangler, demangle] at direct
          exact direct.indexRecordsShared schedule records
      | false =>
          rw [demanglerFor, demangle] at answers
          exact answers.indexRecordsPooled schedule records

theorem indexMetadata_yields (settings : Settings) (host : Host) (metadata : Metadata) :
    Yields (Steady settings host) (indexMetadata settings metadata)
      (metadata.index (naming (settings.answer host))) := by
  refine (indexRecords_yields settings host metadata.native).bind ?_
  exact (indexRecords_yields settings host metadata.bridged).bind (yields_pure _)

theorem withFreshCache_yields {action : StateM (Cache × Host) α} {value : α}
    (yields : Yields (Steady settings host) action value) :
    Yields (Asked settings.demangleToolPath host) (withFreshCache action) value := by
  intro state asked
  obtain ⟨same, after⟩ := yields (∅, state) ⟨right_empty, asked⟩
  exact ⟨same, after.2⟩

theorem keeps_asked {action : HostM α} {path : Option String} (quiet : Quiet action) :
    Keeps (Asked path host) action :=
  fun state asked => asked.quiet (quiet state)

/-- The analysis of two texts on a host is the pure one under the names of the host's tool, and all
that it does to the host is to log and to ask the tool. -/
theorem analyzeTexts_yields (settings : Settings) (whitelist : NameSet)
    (dump selectorText : List Char) (host : Host) :
    Yields (Asked settings.demangleToolPath host)
      (analyzeTexts settings whitelist dump selectorText)
      (analyze (naming (settings.answer host)) whitelist dump selectorText) := by
  unfold analyzeTexts analyze Metadata.findings
  generalize Metadata.ofTexts dump selectorText = metadata
  refine (keeps_asked (quiet_logExtraction _ _ _)).bind fun _ => ?_
  cases metadata.isEmpty with
  | true => exact (keeps_asked (quiet_addLog _ _ _)).bind fun _ => yields_pure _
  | false =>
      refine (keeps_asked (quiet_logSkipped _)).bind fun _ => withFreshCache_yields ?_
      refine (indexMetadata_yields settings host metadata).bind ?_
      refine (keeps_besideCache (quiet_addLog _ _ _)).bind fun _ => ?_
      refine ((demanglerFor_answersWhile settings host).compareWith whitelist _ metadata).bind ?_
      exact (keeps_besideCache (quiet_addLog _ _ _)).bind fun _ => yields_pure _

end Command

end DeadSymbols
