import DeadSymbols.Proofs.Ordered
import DeadSymbols.Proofs.Staging

/-!
Contract: both analysis commands compute the pure analysis.

A command reads its settings and whitelists, has two texts from files or from the dump tool,
analyzes them, and reports. Each of these stages has its outcomes stated once, as equations of the
command at a host. What a successful command returns is the analysis of the two texts under the
whitelist and the demangler in effect; how records are read, and how and where the report is
delivered, leaves no trace in it.

Owns: what a command is given, the outcomes of its stages, the findings of a successful command.
-/

namespace DeadSymbols

open DeadSymbols.Host

variable {α β : Type} {host after : Host}

/-! ### Commands at a host -/

theorem bind_of_ok {command : CommandM α} {next : α → CommandM β} {result : α}
    (succeeds : command host = (.ok result, after)) :
    (command >>= next) host = next result after := by
  show ExceptT.bindCont next (command host).1 (command host).2 = _
  rw [succeeds]
  rfl

theorem bind_of_error {command : CommandM α} {next : α → CommandM β} {failure : Failure}
    (fails : command host = (.error failure, after)) :
    (command >>= next) host = (.error failure, after) := by
  show ExceptT.bindCont next (command host).1 (command host).2 = _
  rw [fails]
  rfl

theorem inContext_ok {command : CommandM α} {result : α} (context : String)
    (succeeds : command host = (.ok result, after)) :
    inContext context command host = (.ok result, after) := by
  show ((command host).1.mapError _, (command host).2) = _
  rw [succeeds]
  rfl

theorem inContext_error {command : CommandM α} {failure : Failure} (context : String)
    (fails : command host = (.error failure, after)) :
    inContext context command host =
      (.error { failure with contexts := context :: failure.contexts }, after) := by
  show ((command host).1.mapError _, (command host).2) = _
  rw [fails]
  rfl

/-- An attempt inside a context, when it succeeds. -/
theorem attempt_ok {ε : Type} {cause : ε → Cause} {action : HostM (Except ε α)} {result : α}
    (context : String) (succeeds : (action host).1 = .ok result) :
    inContext context (do orFail cause (← action)) host = (.ok result, (action host).2) := by
  apply inContext_ok
  show orFail cause (action host).1 (action host).2 = _
  rw [succeeds]
  rfl

theorem attempt_error {ε : Type} {cause : ε → Cause} {action : HostM (Except ε α)} {error : ε}
    (context : String) (fails : (action host).1 = .error error) :
    inContext context (do orFail cause (← action)) host =
      (.error { contexts := [context], cause := cause error }, (action host).2) := by
  have failed : (do orFail cause (← action) : CommandM α) host =
      (.error (Failure.of (cause error)), (action host).2) := by
    show orFail cause (action host).1 (action host).2 = _
    rw [fails]
    rfl
  exact inContext_error context failed

/-! ### Settings and whitelists -/

/-- The settings on a host: those of the given file, or those of the working directory. -/
def Host.settings (host : Host) : Option String → Except SettingsError Settings
  | some path => Settings.ofFile host path
  | none => Settings.ofDirectory host host.workPath

/-- What is said around a mistake in the settings. -/
def Host.settingsContext (host : Host) : Option String → String
  | some path => "Failed to load config " ++ path
  | none => "Failed to load config from " ++ host.workPath

/-- The names that a JSON text among the options lists. -/
def listedInJson : Option String → Except SettingsError (List String)
  | some text => Whitelist.ofJson text.toList
  | none => .ok []

/-- The names that a file among the options lists. -/
def Host.listedInFile (host : Host) : Option String → Except SettingsError (List String)
  | some path => Whitelist.ofFile host path
  | none => .ok []

theorem Settings.mem_fullWhitelist {settings : Settings} {extra : List String} {name : String} :
    name ∈ settings.fullWhitelist extra ↔
      (settings.useBuiltInWhitelist = true ∧ name ∈ Whitelist.builtIn) ∨
        name ∈ settings.whitelist ∨ name ∈ extra := by
  rw [Settings.fullWhitelist, NameSet.mem_ofList]
  by_cases used : settings.useBuiltInWhitelist = true
  · simp [used]
  · simp [used]

/-- What the settings and the options say, before a flag is applied. -/
structure Setup where
  settings : Settings
  fromJson : List String
  fromFile : List String

/-- The whitelist in effect under the options. -/
def Setup.whitelist (setup : Setup) (options : AnalysisOptions) : NameSet :=
  (options.apply setup.settings).fullWhitelist (setup.fromJson ++ setup.fromFile)

/-- The setup is the one that a command with these options reads on the host. -/
structure Setup.ReadFrom (host : Host) (options : AnalysisOptions) (setup : Setup) : Prop where
  settings : host.settings options.settingsFile = .ok setup.settings
  json : listedInJson options.whitelistJson = .ok setup.fromJson
  file : host.listedInFile options.whitelistFile = .ok setup.fromFile

/-- The first mistake in the settings, the JSON text and the whitelist file, in this order. -/
inductive Mistake (host : Host) (options : AnalysisOptions) : Failure → Prop where
  | settings {error : SettingsError} :
    host.settings options.settingsFile = .error error →
      Mistake host options
        { contexts := [host.settingsContext options.settingsFile], cause := .settings error }
  | json {settings : Settings} {error : SettingsError} :
    host.settings options.settingsFile = .ok settings →
      listedInJson options.whitelistJson = .error error →
      Mistake host options { contexts := ["Invalid --whitelist-json"], cause := .settings error }
  | file {settings : Settings} {names : List String} {path : String} {error : SettingsError} :
    host.settings options.settingsFile = .ok settings →
      listedInJson options.whitelistJson = .ok names →
      options.whitelistFile = some path → Whitelist.ofFile host path = .error error →
      Mistake host options
        { contexts := ["Invalid whitelist file " ++ path], cause := .settings error }

namespace Command

variable {options : AnalysisOptions} {setup : Setup}

theorem orFail_inContext_ok {ε : Type} {cause : ε → Cause} {outcome : Except ε α} {result : α}
    (context : String) (good : outcome = .ok result) :
    inContext context (orFail cause outcome) host = (.ok result, host) := by
  rw [good]
  rfl

theorem orFail_inContext_error {ε : Type} {cause : ε → Cause} {outcome : Except ε α} {error : ε}
    (context : String) (bad : outcome = .error error) :
    inContext context (orFail cause outcome) host =
      (.error { contexts := [context], cause := cause error }, host) := by
  rw [bad]
  rfl

theorem loadSettings_ok {file : Option String} {settings : Settings}
    (good : host.settings file = .ok settings) :
    loadSettings file host = (.ok settings, host) := by
  cases file with
  | some path => exact orFail_inContext_ok _ good
  | none => exact orFail_inContext_ok _ good

theorem loadSettings_error {file : Option String} {error : SettingsError}
    (bad : host.settings file = .error error) :
    loadSettings file host =
      (.error { contexts := [host.settingsContext file], cause := .settings error }, host) := by
  cases file with
  | some path => exact orFail_inContext_error _ bad
  | none => exact orFail_inContext_error _ bad

theorem jsonWhitelist_ok {json : Option String} {names : List String}
    (good : listedInJson json = .ok names) : jsonWhitelist json host = (.ok names, host) := by
  cases json with
  | some text => exact orFail_inContext_ok _ good
  | none =>
      cases good
      rfl

theorem jsonWhitelist_error {json : Option String} {error : SettingsError}
    (bad : listedInJson json = .error error) :
    jsonWhitelist json host =
      (.error { contexts := ["Invalid --whitelist-json"], cause := .settings error }, host) := by
  cases json with
  | some text => exact orFail_inContext_error _ bad
  | none => cases bad

theorem fileWhitelist_ok {file : Option String} {names : List String}
    (good : host.listedInFile file = .ok names) :
    fileWhitelist file host = (.ok names, host) := by
  cases file with
  | some path => exact orFail_inContext_ok _ good
  | none =>
      cases good
      rfl

theorem fileWhitelist_error {path : String} {error : SettingsError}
    (bad : Whitelist.ofFile host path = .error error) :
    fileWhitelist (some path) host =
      (.error { contexts := ["Invalid whitelist file " ++ path], cause := .settings error },
        host) :=
  orFail_inContext_error _ bad

section Gathering

variable {settings : Settings} {json : Option String} {fromJson : List String}

theorem gatherWhitelist_ok {file : Option String} {fromFile : List String}
    (goodJson : listedInJson json = .ok fromJson) (goodFile : host.listedInFile file = .ok fromFile) :
    gatherWhitelist settings json file host =
      (.ok (settings.fullWhitelist (fromJson ++ fromFile)), host) := by
  rw [gatherWhitelist, bind_of_ok (jsonWhitelist_ok goodJson), bind_of_ok (fileWhitelist_ok goodFile)]
  rfl

theorem gatherWhitelist_fileError {path : String} {error : SettingsError}
    (goodJson : listedInJson json = .ok fromJson) (bad : Whitelist.ofFile host path = .error error) :
    gatherWhitelist settings json (some path) host =
      (.error { contexts := ["Invalid whitelist file " ++ path], cause := .settings error },
        host) := by
  rw [gatherWhitelist, bind_of_ok (jsonWhitelist_ok goodJson)]
  exact bind_of_error (fileWhitelist_error bad)

end Gathering

/-- A command goes on with the settings under its flags and with the whitelist in effect. -/
theorem prepare_ok (read : setup.ReadFrom host options) :
    prepare options host =
      (.ok (options.apply setup.settings, setup.whitelist options), host) := by
  rw [prepare, bind_of_ok (loadSettings_ok read.settings),
    bind_of_ok (gatherWhitelist_ok read.json read.file)]
  rfl

theorem prepare_error {failure : Failure} (mistake : Mistake host options failure) :
    prepare options host = (.error failure, host) := by
  cases mistake with
  | settings bad => rw [prepare, bind_of_error (loadSettings_error bad)]
  | json good bad =>
      rw [prepare, bind_of_ok (loadSettings_ok good), gatherWhitelist]
      exact bind_of_error (bind_of_error (jsonWhitelist_error bad))
  | file good goodJson given bad =>
      rw [prepare, bind_of_ok (loadSettings_ok good), given]
      exact bind_of_error (gatherWhitelist_fileError goodJson bad)

theorem prepare_cases (host : Host) (options : AnalysisOptions) :
    (∃ setup : Setup, setup.ReadFrom host options) ∨ ∃ failure, Mistake host options failure := by
  cases settings : host.settings options.settingsFile with
  | error error => exact Or.inr ⟨_, Mistake.settings settings⟩
  | ok loaded =>
      cases json : listedInJson options.whitelistJson with
      | error error => exact Or.inr ⟨_, Mistake.json settings json⟩
      | ok names =>
          cases given : options.whitelistFile with
          | none => exact Or.inl ⟨⟨loaded, names, []⟩, settings, json, by rw [given]; rfl⟩
          | some path =>
              cases file : Whitelist.ofFile host path with
              | error error => exact Or.inr ⟨_, Mistake.file settings json given file⟩
              | ok others =>
                  exact Or.inl ⟨⟨loaded, names, others⟩, settings, json, by rw [given]; exact file⟩

/-! ### Texts and their analysis -/

section Sweep

open DeadSymbols.Name

variable {provider : Provider} {binary dump selectorText : String} {settings : Settings}
  {whitelist : NameSet}

theorem analyzeFrom_of_texts {between : Host}
    (first : provider.provide .metadata binary host = (.ok dump, between))
    (second : provider.provide .selectors binary between = (.ok selectorText, after)) :
    analyzeFrom provider binary settings whitelist host =
      (.ok (analyzeTexts settings whitelist dump.toList selectorText.toList after).1,
        (analyzeTexts settings whitelist dump.toList selectorText.toList after).2) := by
  rw [analyzeFrom, bind_of_ok (attempt_ok _ (congrArg Prod.fst first)), first,
    bind_of_ok (attempt_ok _ (congrArg Prod.fst second)), second]
  rfl

theorem analyzeFrom_of_dumpError {error : ProviderError}
    (first : provider.provide .metadata binary host = (.error error, after)) :
    analyzeFrom provider binary settings whitelist host =
      (.error { contexts := [provider.name ++ " failed to dump " ++ binary]
                cause := .provider error }, after) := by
  rw [analyzeFrom, bind_of_error (attempt_error _ (congrArg Prod.fst first)), first]

theorem analyzeFrom_of_selectorError {between : Host} {error : ProviderError}
    (first : provider.provide .metadata binary host = (.ok dump, between))
    (second : provider.provide .selectors binary between = (.error error, after)) :
    analyzeFrom provider binary settings whitelist host =
      (.error { contexts := [provider.name ++ " failed to read selector references of " ++ binary]
                cause := .provider error }, after) := by
  rw [analyzeFrom, bind_of_ok (attempt_ok _ (congrArg Prod.fst first)), first,
    bind_of_error (attempt_error _ (congrArg Prod.fst second)), second]

/-- A text that is there is provided. -/
theorem provide_of_shows {text : DumpText} {content : String}
    (shows : provider.Shows host text binary content) :
    ∃ after more, Ran more host after ∧
      provider.provide text binary host = (.ok content, after) := by
  obtain ⟨more, ran⟩ := provider.provide_ran text binary host
  exact ⟨_, more, ran, Prod.ext (Provider.provide_eq_ok_iff.mpr shows) rfl⟩

theorem analyzeFrom_ok (settings : Settings) (whitelist : NameSet)
    (showsDump : provider.Shows host .metadata binary dump)
    (showsSelectors : provider.Shows host .selectors binary selectorText) :
    ∃ after more, Ran more host after ∧
      analyzeFrom provider binary settings whitelist host =
        (.ok (analyze (naming (settings.answer host)) whitelist dump.toList selectorText.toList),
          after) := by
  obtain ⟨between, more, ran, first⟩ := provide_of_shows showsDump
  obtain ⟨texted, others, ranOn, second⟩ :=
    provide_of_shows ((Provider.shows_samePlace ran.samePlace provider).mpr showsSelectors)
  have same := ran.samePlace.trans ranOn.samePlace
  obtain ⟨findings, questions, ranLast, _⟩ :=
    analyzeTexts_yields settings whitelist dump.toList selectorText.toList texted texted
      (Asked.refl _ texted)
  refine ⟨_, _, (ran.trans ranOn).trans ranLast, ?_⟩
  rw [analyzeFrom_of_texts first second, findings, settings.answer_samePlace same]

theorem analyzeFrom_cases (provider : Provider) (binary : String) (settings : Settings)
    (whitelist : NameSet) (host : Host) :
    (∃ dump selectorText, provider.Shows host .metadata binary dump ∧
        provider.Shows host .selectors binary selectorText) ∨
      ∃ context error after more, Ran more host after ∧
        analyzeFrom provider binary settings whitelist host =
          (.error { contexts := [context], cause := .provider error }, after) := by
  obtain ⟨more, ran⟩ := provider.provide_ran .metadata binary host
  rcases first : provider.provide .metadata binary host with ⟨error | dump, between⟩
  · rw [first] at ran
    exact Or.inr ⟨_, _, _, more, ran, analyzeFrom_of_dumpError first⟩
  · rw [first] at ran
    obtain ⟨others, ranOn⟩ := provider.provide_ran .selectors binary between
    rcases second : provider.provide .selectors binary between with ⟨error | selectorText, after⟩
    · rw [second] at ranOn
      exact Or.inr ⟨_, _, _, _, ran.trans ranOn, analyzeFrom_of_selectorError first second⟩
    · have showsDump := Provider.provide_eq_ok_iff.mp (congrArg Prod.fst first)
      have showsSelectors := Provider.provide_eq_ok_iff.mp (congrArg Prod.fst second)
      rw [Provider.shows_samePlace ran.samePlace] at showsSelectors
      exact Or.inl ⟨dump, selectorText, showsDump, showsSelectors⟩

/-- What both commands do once their input is at hand. -/
def sweep (provider : Provider) (binary : String) (options : AnalysisOptions) (settings : Settings)
    (whitelist : NameSet) (name : String) (digest : Option String) : CommandM Findings := do
  let findings ← analyzeFrom provider binary settings whitelist
  report options settings findings name digest
  return findings

variable {name : String} {digest : Option String} {findings : Findings}

theorem report_printed (settings : Settings) (findings : Findings) (name : String)
    (digest : Option String) (host : Host) (printed : options.output = none) :
    (report options settings findings name digest host).1 = .ok () := by
  rw [report, printed]
  rfl

theorem sweep_of_reported {middle : Host}
    (analyzed : analyzeFrom provider binary settings whitelist host = (.ok findings, middle))
    (reported : (report options settings findings name digest middle).1 = .ok ()) :
    sweep provider binary options settings whitelist name digest host =
      (.ok findings, (report options settings findings name digest middle).2) := by
  rw [sweep, bind_of_ok analyzed, bind_of_ok (Prod.ext reported rfl)]
  rfl

theorem sweep_of_unreported {middle : Host} {failure : Failure}
    (analyzed : analyzeFrom provider binary settings whitelist host = (.ok findings, middle))
    (unreported : (report options settings findings name digest middle).1 = .error failure) :
    sweep provider binary options settings whitelist name digest host =
      (.error failure, (report options settings findings name digest middle).2) := by
  rw [sweep, bind_of_ok analyzed, bind_of_error (Prod.ext unreported rfl)]

theorem sweep_findings
    (succeeds : sweep provider binary options settings whitelist name digest host =
      (.ok findings, after)) :
    ∃ dump selectorText, provider.Shows host .metadata binary dump ∧
      provider.Shows host .selectors binary selectorText ∧
      findings = analyze (naming (settings.answer host)) whitelist dump.toList
        selectorText.toList := by
  rcases analyzeFrom_cases provider binary settings whitelist host with
    ⟨dump, selectorText, showsDump, showsSelectors⟩ | ⟨_, _, _, _, _, fails⟩
  · obtain ⟨middle, _, _, analyzed⟩ := analyzeFrom_ok settings whitelist showsDump showsSelectors
    refine ⟨dump, selectorText, showsDump, showsSelectors, ?_⟩
    cases reported : (report options settings _ name digest middle).1 with
    | error failure =>
        rw [sweep_of_unreported analyzed reported] at succeeds
        cases congrArg Prod.fst succeeds
    | ok _ =>
        rw [sweep_of_reported analyzed reported] at succeeds
        exact (Except.ok.inj (congrArg Prod.fst succeeds)).symm
  · rw [sweep, bind_of_error fails] at succeeds
    cases congrArg Prod.fst succeeds

theorem sweep_succeeds (settings : Settings) (whitelist : NameSet) (name : String)
    (digest : Option String) (printed : options.output = none)
    (showsDump : provider.Shows host .metadata binary dump)
    (showsSelectors : provider.Shows host .selectors binary selectorText) :
    ∃ findings after, sweep provider binary options settings whitelist name digest host =
      (.ok findings, after) := by
  obtain ⟨middle, _, _, analyzed⟩ := analyzeFrom_ok settings whitelist showsDump showsSelectors
  exact ⟨_, _, sweep_of_reported analyzed (report_printed _ _ _ _ _ printed)⟩

/-! ### The two commands -/

theorem analyzeDump_eq {path : String} {selectors : Option String}
    (read : setup.ReadFrom host options) :
    analyzeDump path selectors options host =
      sweep (.files path selectors) path options (options.apply setup.settings)
        (setup.whitelist options) (dumpName path) none host := by
  rw [analyzeDump, bind_of_ok (prepare_ok read)]
  rfl

theorem scanImage_eq (image : Image) (tool : Option String) (options : AnalysisOptions)
    (settings : Settings) (whitelist : NameSet) (host : Host) :
    ∃ logged, Ran [] host logged ∧
      scanImage image tool options settings whitelist host =
        sweep (.tool (tool.or settings.dumpToolPath)) image.analyzedPath options settings whitelist
          image.displayName (some image.digest) logged := by
  unfold scanImage
  cases image.staging.isSome with
  | false => exact ⟨host, Ran.refl host, rfl⟩
  | true => exact ⟨_, quiet_addLog _ _ _ host, rfl⟩

theorem scan_of_image {binary : String} {tool : Option String} {image : Image} {during : Host}
    (read : setup.ReadFrom host options)
    (verified : Image.verify (host.absolute binary) host = (.ok image, during)) :
    scan binary tool options host =
      ((scanImage image tool options (options.apply setup.settings) (setup.whitelist options)
          during).1,
        (image.discard (scanImage image tool options (options.apply setup.settings)
          (setup.whitelist options) during).2).2) := by
  have attempted : inContext "Input is not a usable Mach-O binary"
      (do orFail .input (← Image.verify (host.absolute binary))) host = (.ok image, during) := by
    rw [attempt_ok _ (congrArg Prod.fst verified), verified]
  rw [scan, bind_of_ok (prepare_ok read)]
  show (inContext "Input is not a usable Mach-O binary"
    (do orFail .input (← Image.verify (host.absolute binary))) >>= _) host = _
  rw [bind_of_ok attempted]
  rfl

theorem scan_of_inputError {binary : String} {tool : Option String} {error : InputError}
    {during : Host} (read : setup.ReadFrom host options)
    (refused : Image.verify (host.absolute binary) host = (.error error, during)) :
    scan binary tool options host =
      (.error { contexts := ["Input is not a usable Mach-O binary"], cause := .input error },
        during) := by
  have attempted : inContext "Input is not a usable Mach-O binary"
      (do orFail .input (← Image.verify (host.absolute binary))) host = _ :=
    attempt_error _ (congrArg Prod.fst refused)
  rw [scan, bind_of_ok (prepare_ok read)]
  show (inContext "Input is not a usable Mach-O binary"
    (do orFail .input (← Image.verify (host.absolute binary))) >>= _) host = _
  rw [bind_of_error attempted, refused]

end Sweep

end Command

/-! ### Refinement -/

/-- What a command analyzes. -/
inductive Subject where
  /-- Dumps that were captured earlier. -/
  | dump (path : String) (selectors : Option String)
  /-- An image, with the dump tool if one is given. -/
  | image (path : String) (tool : Option String)

def Subject.analyze : Subject → AnalysisOptions → CommandM Findings
  | .dump path selectors => Command.analyzeDump path selectors
  | .image path tool => Command.scan path tool

/-- The subject has the two texts: in its files, or, once the image is verified, as the output of
the dump tool or in the files that stand in for it. The second host is the one at that time. -/
inductive Subject.Gives (setup : Setup) (host : Host) :
    Subject → Host → (dump selectorText : String) → Prop where
  | dump {path dump selectorText : String} {selectors : Option String} :
    host.readText path = .ok dump → host.readText (selectors.getD path) = .ok selectorText →
      Gives setup host (.dump path selectors) host dump selectorText
  | image {path dump selectorText : String} {tool : Option String} {image : Image}
    {during : Host} :
    Image.verify (host.absolute path) host = (.ok image, during) →
      (Provider.tool (tool.or setup.settings.dumpToolPath)).Shows during .metadata
        image.analyzedPath dump →
      (Provider.tool (tool.or setup.settings.dumpToolPath)).Shows during .selectors
        image.analyzedPath selectorText →
      Gives setup host (.image path tool) during dump selectorText

open DeadSymbols.Name

/-- The findings that options and setup ask for, from two texts on a host. -/
def Setup.findings (setup : Setup) (options : AnalysisOptions) (host : Host)
    (dump selectorText : String) : Findings :=
  DeadSymbols.analyze (naming ((options.apply setup.settings).answer host))
    (setup.whitelist options) dump.toList selectorText.toList

section Refinement

variable {subject : Subject} {options : AnalysisOptions} {setup : Setup} {during : Host}
  {dump selectorText : String} {findings : Findings}

/-- A mistake ends the command at once, whatever its subject is. -/
theorem Subject.analyze_mistake {failure : Failure} (subject : Subject)
    (mistake : Mistake host options failure) :
    subject.analyze options host = (.error failure, host) := by
  cases subject with
  | dump path selectors => exact bind_of_error (Command.prepare_error mistake)
  | image path tool => exact bind_of_error (Command.prepare_error mistake)

theorem Subject.findings_of_succeeds
    (succeeds : subject.analyze options host = (.ok findings, after)) :
    ∃ setup : Setup, ∃ during dump selectorText, setup.ReadFrom host options ∧
      subject.Gives setup host during dump selectorText ∧
      findings = setup.findings options during dump selectorText := by
  rcases Command.prepare_cases host options with ⟨setup, read⟩ | ⟨failure, mistake⟩
  · cases subject with
    | dump path selectors =>
        have swept := (Command.analyzeDump_eq read).symm.trans succeeds
        obtain ⟨dump, selectorText, showsDump, showsSelectors, same⟩ :=
          Command.sweep_findings swept
        exact ⟨setup, host, dump, selectorText, read, .dump showsDump showsSelectors, same⟩
    | image path tool =>
        rcases verified : Image.verify (host.absolute path) host with ⟨error | image, during⟩
        · have refused := (Command.scan_of_inputError read verified).symm.trans succeeds
          cases congrArg Prod.fst refused
        · have scanned := (Command.scan_of_image read verified).symm.trans succeeds
          obtain ⟨logged, quiet, swept⟩ := Command.scanImage_eq image tool options
            (options.apply setup.settings) (setup.whitelist options) during
          obtain ⟨dump, selectorText, showsDump, showsSelectors, same⟩ :=
            Command.sweep_findings (Prod.ext (swept ▸ congrArg Prod.fst scanned) rfl)
          rw [Provider.shows_samePlace quiet.samePlace] at showsDump showsSelectors
          rw [Settings.answer_samePlace _ quiet.samePlace] at same
          exact ⟨setup, during, dump, selectorText, read,
            .image verified showsDump showsSelectors, same⟩
  · rw [subject.analyze_mistake mistake] at succeeds
    cases congrArg Prod.fst succeeds

/-- A subject that gives its texts is analyzed, if the report is printed. -/
theorem Subject.succeeds (printed : options.output = none) (read : setup.ReadFrom host options)
    (gives : subject.Gives setup host during dump selectorText) :
    ∃ findings after, subject.analyze options host = (.ok findings, after) := by
  cases gives with
  | @dump path _ _ selectors readsDump readsSelectors =>
      have showsDump : (Provider.files path selectors).Shows host .metadata path dump := readsDump
      have showsSelectors : (Provider.files path selectors).Shows host .selectors path
        selectorText := readsSelectors
      obtain ⟨findings, after, swept⟩ :=
        Command.sweep_succeeds _ _ _ _ printed showsDump showsSelectors
      exact ⟨findings, after, (Command.analyzeDump_eq read).trans swept⟩
  | @image path _ _ tool image _ verified showsDump showsSelectors =>
      obtain ⟨logged, quiet, swept⟩ := Command.scanImage_eq image tool options
        (options.apply setup.settings) (setup.whitelist options) during
      rw [← Provider.shows_samePlace quiet.samePlace] at showsDump showsSelectors
      obtain ⟨findings, after, succeeds⟩ := Command.sweep_succeeds (options.apply setup.settings)
        (setup.whitelist options) image.displayName (some image.digest) printed showsDump
        showsSelectors
      refine ⟨findings, (image.discard after).2, (Command.scan_of_image read verified).trans ?_⟩
      rw [swept.trans succeeds]

/-! ### What bears on the findings -/

/-- The options without those that only say how records are read and where the report goes. -/
def AnalysisOptions.bearing (options : AnalysisOptions) : AnalysisOptions :=
  { options with output := none, format := none, serial := false }

/-- The setup without what only says how the texts are had, how records are read and how the report
looks. -/
def Setup.bearing (setup : Setup) : Setup :=
  { setup with
    settings := { setup.settings with dumpToolPath := none, parallel := true, reportFormat := none } }

theorem Setup.findings_eq {otherOptions : AnalysisOptions} {otherSetup : Setup} {other : Host}
    (sameOptions : otherOptions.bearing = options.bearing)
    (sameSetup : otherSetup.bearing = setup.bearing)
    (answers : ∀ name, (tool setup.settings.demangleToolPath name other).1 =
      (tool setup.settings.demangleToolPath name host).1) :
    otherSetup.findings otherOptions other dump selectorText =
      setup.findings options host dump selectorText := by
  simp only [Setup.bearing, Setup.mk.injEq, Settings.mk.injEq] at sameSetup
  simp only [AnalysisOptions.bearing, AnalysisOptions.mk.injEq] at sameOptions
  obtain ⟨⟨configured, builtIn, _, toolPath, demangle, _⟩, json, file⟩ := sameSetup
  obtain ⟨_, _, _, _, _, noBuiltIn, noDemangle, _⟩ := sameOptions
  have useBuiltIn : (otherOptions.apply otherSetup.settings).useBuiltInWhitelist =
      (options.apply setup.settings).useBuiltInWhitelist := by
    simp only [AnalysisOptions.apply, builtIn, noBuiltIn]
  have useTool : (otherOptions.apply otherSetup.settings).demangle =
      (options.apply setup.settings).demangle := by
    simp only [AnalysisOptions.apply, demangle, noDemangle]
  have sameWhitelist : otherSetup.whitelist otherOptions = setup.whitelist options := by
    rw [Setup.whitelist, Settings.fullWhitelist, useBuiltIn, json, file]
    show NameSet.ofList (_ ++ otherSetup.settings.whitelist ++ _) = _
    rw [configured]
    rfl
  have sameAnswer : (otherOptions.apply otherSetup.settings).answer other =
      (options.apply setup.settings).answer host := by
    funext name
    rw [Settings.answer, Settings.demangler, useTool]
    show ((if _ then tool otherSetup.settings.demangleToolPath else identity) name other).1 = _
    rw [toolPath, Settings.answer, Settings.demangler]
    cases (options.apply setup.settings).demangle with
    | true => exact answers name
    | false => rfl
  rw [Setup.findings, Setup.findings, sameAnswer, sameWhitelist]

theorem Setup.ReadFrom.unique {otherOptions : AnalysisOptions} {otherSetup : Setup} {other : Host}
    (read : setup.ReadFrom host options) (readOther : otherSetup.ReadFrom other otherOptions)
    (same : SamePlace host other) (sameOptions : otherOptions.bearing = options.bearing) :
    otherSetup = setup := by
  simp only [AnalysisOptions.bearing, AnalysisOptions.mk.injEq] at sameOptions
  obtain ⟨_, _, jsonOption, fileOption, settingsOption, _⟩ := sameOptions
  have ofFile (path : String) : Settings.ofFile other path = Settings.ofFile host path := by
    rw [Settings.ofFile, Settings.ofFile, readSettingsText, readSettingsText, same.readText_eq]
  have settings : other.settings options.settingsFile = host.settings options.settingsFile := by
    cases options.settingsFile with
    | some path => exact ofFile path
    | none =>
        have isFile : other.isFile = host.isFile := funext same.isFile_eq
        simp only [Host.settings, Settings.ofDirectory, Host.workPath, same.workDir, isFile, ofFile]
  have file : other.listedInFile options.whitelistFile =
      host.listedInFile options.whitelistFile := by
    cases options.whitelistFile with
    | none => rfl
    | some path =>
        rw [listedInFile, listedInFile, Whitelist.ofFile, Whitelist.ofFile, readSettingsText,
          readSettingsText, same.readText_eq]
  have readSettings := readOther.settings
  have readJson := readOther.json
  have readFile := readOther.file
  rw [settingsOption, settings, read.settings] at readSettings
  rw [jsonOption, read.json] at readJson
  rw [fileOption, file, read.file] at readFile
  obtain ⟨_, _, _⟩ := otherSetup
  cases readSettings
  cases readJson
  cases readFile
  rfl

theorem Subject.Gives.unique {other otherDuring : Host} {otherDump otherText : String}
    (gives : subject.Gives setup host during dump selectorText)
    (givesOther : subject.Gives setup other otherDuring otherDump otherText)
    (same : SamePlace host other) (temp : other.tempDir = host.tempDir)
    (fresh : other.freshName = host.freshName) :
    SamePlace during otherDuring ∧ otherDump = dump ∧ otherText = selectorText := by
  cases gives with
  | dump readsDump readsText =>
      cases givesOther with
      | dump readsOther readsOtherText =>
          rw [same.readText_eq, readsDump] at readsOther
          rw [same.readText_eq, readsText] at readsOtherText
          exact ⟨same, (Except.ok.inj readsOther).symm, (Except.ok.inj readsOtherText).symm⟩
  | image verified showsDump showsText =>
      cases givesOther with
      | image verifiedOther showsOther showsOtherText =>
          rw [same.absolute_eq] at verifiedOther
          obtain ⟨sameAnalyzed, sameDuring⟩ :=
            Image.verify_samePlace same temp fresh verified verifiedOther
          rw [sameAnalyzed, Provider.shows_samePlace sameDuring] at showsOther showsOtherText
          exact ⟨sameDuring, Provider.shows_unique showsOther showsDump,
            Provider.shows_unique showsOtherText showsText⟩

/-- The command succeeds with the findings, the setup is the one it reads, and the texts are those
that its subject gives. -/
structure Subject.Succeeds (subject : Subject) (options : AnalysisOptions) (host : Host)
    (setup : Setup) (during : Host) (dump selectorText : String) (findings : Findings) : Prop where
  ends : ∃ after, subject.analyze options host = (.ok findings, after)
  read : setup.ReadFrom host options
  gives : subject.Gives setup host during dump selectorText

theorem Subject.Succeeds.findings_eq
    (succeeds : subject.Succeeds options host setup during dump selectorText findings) :
    findings = setup.findings options during dump selectorText := by
  obtain ⟨⟨after, ends⟩, read, gives⟩ := succeeds
  obtain ⟨_, other, _, _, readOther, givesOther, same⟩ := Subject.findings_of_succeeds ends
  cases read.unique readOther (SamePlace.refl host) rfl
  obtain ⟨sameDuring, rfl, rfl⟩ := gives.unique givesOther (SamePlace.refl host) rfl rfl
  rw [same]
  exact Setup.findings_eq rfl rfl fun name => tool_samePlace sameDuring

theorem Setup.mem_whitelist {name : String} :
    name ∈ setup.whitelist options ↔
      (setup.settings.useBuiltInWhitelist = true ∧ options.noBuiltInWhitelist = false ∧
          name ∈ Whitelist.builtIn) ∨
        name ∈ setup.settings.whitelist ∨ name ∈ setup.fromJson ∨ name ∈ setup.fromFile := by
  have flags : (options.apply setup.settings).useBuiltInWhitelist = true ↔
      setup.settings.useBuiltInWhitelist = true ∧ options.noBuiltInWhitelist = false := by
    simp [AnalysisOptions.apply]
  have configured : (options.apply setup.settings).whitelist = setup.settings.whitelist := rfl
  rw [Setup.whitelist, Settings.mem_fullWhitelist, configured, flags, and_assoc, List.mem_append]

theorem Setup.findings_eq_analyzeWith (setup : Setup) (options : AnalysisOptions) (host : Host)
    (dump selectorText : String) :
    setup.findings options host dump selectorText =
      (analyzeWith (options.apply setup.settings).demangler (setup.whitelist options) dump.toList
        selectorText.toList host).1 :=
  ((((options.apply setup.settings).answersWhile host).analyzeWith (setup.whitelist options)
    dump.toList selectorText.toList) host (Asked.refl _ host)).1.symm

/-- A command that succeeds has read its setup and has had its two texts. Its findings are those of
the analysis of the two texts. The whitelist is the union of the built-in one, if the settings use it
and no flag is against it, the configured one, and those of the JSON text and the file among the
options. The demangler is the tool, if the settings ask for it and no flag is against it. With both
at hand a command succeeds, if its report is printed.

The findings are the same on a host with the same files and variables, whatever schedules its pools
have, and under options that differ in how records are read and where the report goes. Two commands
with the same texts, on any subjects and hosts, find the same under settings that differ in no more
than that and the dump tool, if the demangling tool has the same answers. -/
theorem commands_compute_analysis (subject : Subject) (options : AnalysisOptions) (host : Host) :
    (∀ findings after, subject.analyze options host = (.ok findings, after) →
      ∃ setup during dump selectorText,
        subject.Succeeds options host setup during dump selectorText findings) ∧
    (∀ setup during dump selectorText findings,
      subject.Succeeds options host setup during dump selectorText findings →
        ∃ whitelist : NameSet,
          (∀ name, name ∈ whitelist ↔
            (setup.settings.useBuiltInWhitelist = true ∧ options.noBuiltInWhitelist = false ∧
                name ∈ Whitelist.builtIn) ∨
              name ∈ setup.settings.whitelist ∨ name ∈ setup.fromJson ∨ name ∈ setup.fromFile) ∧
          findings =
            (analyzeWith
              (if setup.settings.demangle && !options.noDemangle then
                tool setup.settings.demangleToolPath
              else identity)
              whitelist dump.toList selectorText.toList during).1) ∧
    (∀ setup during dump selectorText, options.output = none → setup.ReadFrom host options →
      subject.Gives setup host during dump selectorText →
        ∃ findings, subject.Succeeds options host setup during dump selectorText findings) ∧
    (∀ otherOptions other findings after otherFindings otherAfter,
      SamePlace host other → other.tempDir = host.tempDir → other.freshName = host.freshName →
      otherOptions.bearing = options.bearing →
      subject.analyze options host = (.ok findings, after) →
      subject.analyze otherOptions other = (.ok otherFindings, otherAfter) →
        otherFindings = findings) ∧
    ∀ otherSubject otherOptions other setup during otherSetup otherDuring dump selectorText findings
        otherFindings,
      subject.Succeeds options host setup during dump selectorText findings →
      Subject.Succeeds otherSubject otherOptions other otherSetup otherDuring dump selectorText
        otherFindings →
      otherOptions.bearing = options.bearing → otherSetup.bearing = setup.bearing →
      (∀ name, (tool setup.settings.demangleToolPath name otherDuring).1 =
        (tool setup.settings.demangleToolPath name during).1) →
        otherFindings = findings := by
  refine ⟨?_, ?_, ?_, ?_, ?_⟩
  · intro findings after ends
    obtain ⟨setup, during, dump, selectorText, read, gives, _⟩ := Subject.findings_of_succeeds ends
    exact ⟨setup, during, dump, selectorText, ⟨after, ends⟩, read, gives⟩
  · intro setup during dump selectorText findings succeeds
    refine ⟨setup.whitelist options, fun name => Setup.mem_whitelist, ?_⟩
    rw [succeeds.findings_eq, Setup.findings_eq_analyzeWith]
    rfl
  · intro setup during dump selectorText printed read gives
    obtain ⟨findings, after, ends⟩ := Subject.succeeds printed read gives
    exact ⟨findings, ⟨after, ends⟩, read, gives⟩
  · intro otherOptions other findings after otherFindings otherAfter same temp fresh sameOptions
      ends endsOther
    obtain ⟨setup, during, dump, selectorText, read, gives, rfl⟩ :=
      Subject.findings_of_succeeds ends
    obtain ⟨otherSetup, otherDuring, _, _, readOther, givesOther, rfl⟩ :=
      Subject.findings_of_succeeds endsOther
    cases read.unique readOther same sameOptions
    obtain ⟨sameDuring, rfl, rfl⟩ := gives.unique givesOther same temp fresh
    exact Setup.findings_eq sameOptions rfl fun name => tool_samePlace sameDuring
  · intro otherSubject otherOptions other setup during otherSetup otherDuring dump selectorText
      findings otherFindings succeeds succeedsOther sameOptions sameSetup answers
    rw [succeeds.findings_eq, succeedsOther.findings_eq]
    exact Setup.findings_eq sameOptions sameSetup answers

/-- A captured dump, read by pools, and an image whose dump tool prints the same text, read in
turn. -/
theorem commands_compute_analysis_lamp :
    let text := "data 0x1 (struct class_ro_t *)\n name 0x2 Lamp\n baseMethods 0x3\n" ++
      " name 0x4 on\n imp 0x5 -[Lamp on]\n"
    let content : ByteArray := ⟨#[0xCA, 0xFE, 0xBA, 0xBE, 0, 0, 0, 0, 0, 0, 0, 0, 0, 0, 0, 0]⟩
    let otool : Program :=
      { label := "otool"
        cases := [{ first := none, last := none
                    result := { output := text.toUTF8, errors := .empty, exitCode := 0 } }] }
    let host : Host :=
      { tree := ⟨[(["lamp.txt"], .file text.toUTF8), (["otool"], .program otool),
          (["lamp"], .file content)]⟩
        workDir := [], environment := [], tempDir := "/tmp", freshName := "copy", now := ""
        runs := [], log := [], printed := "", schedules := [[1, 0]] }
    ∃ findings after otherAfter,
      (Subject.dump "lamp.txt" none).analyze { noBuiltInWhitelist := true } host =
          (.ok findings, after) ∧
        (Subject.image "lamp" (some "/otool")).analyze { noBuiltInWhitelist := true, serial := true }
          host = (.ok findings, otherAfter) ∧
        findings.unusedMethods = ["[Lamp on]"] := by
  intro text content otool host
  let setup : Setup := { settings := Settings.default, fromJson := [], fromFile := [] }
  have settings : Settings.ofDirectory host "/" = .ok Settings.default := by rfl
  have stored : host.readText "lamp.txt" = .ok text := FileTree.readText_of_file rfl
  have shows (kind : DumpText) : (Provider.tool (some "/otool")).Shows host kind "/lamp" text := by
    have printed : text = Text.ofBytesLossy text.toUTF8 := by decide +kernel
    have entry : host.programAt "/otool" = .ok otool := by rfl
    have plain : ("/otool" :: (kind.arguments ++ ["/lamp"])).any (·.toList.contains '\x00') =
        false := by cases kind <;> decide +kernel
    have found : host.program "/otool" (kind.arguments ++ ["/lamp"]) = .ok otool := by
      rw [Host.program, plain, entry]
      rfl
    exact Or.inr ⟨by cases kind <;> rfl, rfl, otool, found, rfl, printed⟩
  have inspected : Image.inspect host "/lamp" = .ok (content, .universal) := by
    have isFile : host.isFile "/lamp" = true := by rfl
    have stands : host.read "/lamp" = .ok content := by rfl
    have universal : host.imageKind? content = some .universal :=
      show MachO.kind? content = some .universal by decide +kernel
    simp [Image.inspect, isFile, stands, universal]
  have absolute : host.absolute "lamp" = "/lamp" := by decide +kernel
  have verified := absolute ▸ Image.verify_plain inspected (by decide +kernel)
  obtain ⟨_, computes, succeeds, _, agrees⟩ :=
    commands_compute_analysis (.dump "lamp.txt" none) { noBuiltInWhitelist := true } host
  obtain ⟨_, _, succeedsImage, _⟩ :=
    commands_compute_analysis (.image "lamp" (some "/otool"))
      { noBuiltInWhitelist := true, serial := true } host
  obtain ⟨findings, found⟩ :=
    succeeds setup host text text rfl ⟨settings, rfl, rfl⟩ (.dump stored stored)
  obtain ⟨others, foundImage⟩ :=
    succeedsImage setup host text text rfl ⟨settings, rfl, rfl⟩
      (.image verified (shows .metadata) (shows .selectors))
  have same : others = findings :=
    agrees _ _ _ _ _ _ _ _ _ _ _ found foundImage rfl rfl fun _ => rfl
  obtain ⟨after, ends⟩ := found.ends
  obtain ⟨otherAfter, endsImage⟩ := foundImage.ends
  obtain ⟨whitelist, members, value⟩ := computes _ _ _ _ _ found
  have nothing : whitelist = ∅ := by
    apply NameSet.ext
    intro name
    rw [members]
    simp [setup, Settings.default]
  refine ⟨findings, after, otherAfter, ends, same ▸ endsImage, ?_⟩
  rw [value, nothing]
  decide +kernel

end Refinement

end DeadSymbols
