import DeadSymbols.Command.Analyze

/-!
Contract: what a command line asks for.

The words are read from left to right, first those before the name of a command, then those after
it. An option is written `--name value`, `--name=value`, `-n value`, `-nvalue` or `-n=value`, and
short flags can be joined. A word that starts with a dash is no value, a lone dash apart, and `--`
ends the options. The first word that is wrong decides, as does the first that asks for help or
for the version; what is missing or in conflict shows only at the end.

Owns: the options of each command, the reading of words, the request that results.
Does not own: what is done about a request (`Command.Run`).
-/

namespace DeadSymbols.Command

/-- What a command line asks for. -/
inductive Request where
  | scan (binary : String) (tool : Option String) (options : AnalysisOptions)
  | analyzeDump (dump : String) (selectors : Option String) (options : AnalysisOptions)
  | listProviders (json : Bool)
  | showWhitelist (json : Bool)
deriving DecidableEq, Repr

/-- A request with the flags that concern the log. -/
structure Invocation where
  verbose : Bool
  quiet : Bool
  request : Request
deriving DecidableEq, Repr

/-- Why a command line is not carried out. -/
inductive Stop where
  | help
  | version
  | misuse
deriving DecidableEq, Repr

/-- What an option takes. -/
inductive Taking where
  | nothing
  | text
  /-- A path, which cannot be empty. -/
  | path
  /-- The name of a report format. -/
  | format
  | helpRequest
  | versionRequest
deriving DecidableEq, Repr

/-- An option. -/
structure Flag where
  long : String
  short : Option Char
  takes : Taking
deriving DecidableEq, Repr

/-- Whether an option needs a value. -/
def Flag.needsValue (flag : Flag) : Bool :=
  match flag.takes with
  | .text | .path | .format => true
  | .nothing | .helpRequest | .versionRequest => false

/-- Whether a value is one that the option takes. -/
def Flag.admits (flag : Flag) (value : String) : Bool :=
  match flag.takes with
  | .path => !value.isEmpty
  | .format => (Report.Format.ofName? value).isSome
  | _ => true

/-- What words may stand at a place of the command line: the options and the number of further
words. -/
structure Level where
  flags : List Flag
  words : Nat
deriving DecidableEq, Repr

/-- The options that may stand everywhere. -/
def commonFlags : List Flag :=
  [⟨"verbose", some 'v', .nothing⟩, ⟨"quiet", some 'q', .nothing⟩, ⟨"help", some 'h', .helpRequest⟩]

/-- The options of an analysis. -/
def analysisFlags : List Flag :=
  [⟨"output", some 'o', .path⟩, ⟨"format", some 'f', .format⟩, ⟨"whitelist-json", none, .text⟩,
   ⟨"whitelist-file", none, .path⟩, ⟨"config", some 'c', .path⟩,
   ⟨"no-default-whitelist", none, .nothing⟩, ⟨"no-demangle", none, .nothing⟩,
   ⟨"serial", none, .nothing⟩]

/-- The options before the name of a command. -/
def topFlags : List Flag := commonFlags ++ [⟨"version", some 'V', .versionRequest⟩]

/-- The commands and their levels. -/
def levels : List (String × Level) :=
  [("scan", { flags := commonFlags ++ analysisFlags ++ [⟨"otool", none, .path⟩], words := 1 }),
   ("analyze-dump",
    { flags := commonFlags ++ analysisFlags ++ [⟨"dump", none, .path⟩, ⟨"selrefs", none, .path⟩]
      words := 0 }),
   ("list-providers", { flags := commonFlags ++ [⟨"json", none, .nothing⟩], words := 0 }),
   ("default-whitelist", { flags := commonFlags ++ [⟨"json", none, .nothing⟩], words := 0 })]

/-- What has been given at a level: options with their values, and further words. -/
structure Given where
  options : List (String × String) := []
  words : List String := []
deriving DecidableEq, Repr

/-- The value of an option, if it was given. -/
def Given.value? (given : Given) (name : String) : Option String := given.options.lookup name

/-- Whether an option was given. -/
def Given.has (given : Given) (name : String) : Bool := (given.value? name).isSome

/-- Takes an option with its value. No option may be given twice. -/
def Given.take (given : Given) (flag : Flag) (value : String) : Except Stop Given :=
  match flag.takes with
  | .helpRequest => .error .help
  | .versionRequest => .error .version
  | _ =>
    if given.has flag.long || !flag.admits value then .error .misuse
    else .ok { given with options := given.options ++ [(flag.long, value)] }

/-- What a word does to a level: options are given, or one still waits for its value. -/
inductive Progress where
  | done (given : Given)
  | waiting (given : Given) (flag : Flag)

/-- Reads an option by its long name, with the value behind an equals sign if there is one. -/
def readLong (flags : List Flag) (given : Given) (name : String) (value : Option String) :
    Except Stop Progress :=
  match flags.find? (·.long = name) with
  | none => .error .misuse
  | some flag =>
    if flag.needsValue then
      match value with
      | some value => (given.take flag value).map .done
      | none => .ok (.waiting given flag)
    else if value.isSome then .error .misuse
    else (given.take flag "").map .done

/-- Reads short options that are joined in one word. The first that takes a value takes the rest
of the word, if there is any. -/
def readShort (flags : List Flag) (given : Given) : List Char → Except Stop Progress
  | [] => .ok (.done given)
  | c :: rest =>
    match flags.find? (·.short = some c) with
    | none => .error .misuse
    | some flag =>
      if flag.needsValue then
        match rest with
        | [] => .ok (.waiting given flag)
        | '=' :: value => (given.take flag (String.ofList value)).map .done
        | value => (given.take flag (String.ofList value)).map .done
      else do
        let given ← given.take flag ""
        readShort flags given rest

/-- Reads a word that starts with a dash and is more than a dash. -/
def readOption (flags : List Flag) (given : Given) : List Char → Except Stop Progress
  | '-' :: '-' :: rest =>
    let name := rest.takeWhile (· ≠ '=')
    let value := match rest.drop name.length with
      | _ :: value => some (String.ofList value)
      | [] => none
    readLong flags given (String.ofList name) value
  | '-' :: rest => readShort flags given rest
  | _ => .error .misuse

/-- Whether a word is an option or the end of the options. -/
def isOption (word : String) : Bool :=
  match word.toList with
  | '-' :: _ :: _ => true
  | _ => false

/-- Takes a further word. -/
def Given.takeWord (given : Given) (limit : Nat) (word : String) : Except Stop Given :=
  if given.words.length < limit then .ok { given with words := given.words ++ [word] }
  else .error .misuse

/-- Reads the words after the name of a command. -/
def readWords (level : Level) : Progress → List String → Except Stop Given
  | .done given, [] => .ok given
  | .waiting _ _, [] => .error .misuse
  | .waiting given flag, word :: rest =>
    if isOption word then .error .misuse
    else do
      let given ← given.take flag word
      readWords level (.done given) rest
  | .done given, word :: rest =>
    if word = "--" then rest.foldlM (fun given word => given.takeWord level.words word) given
    else if isOption word then do
      let progress ← readOption level.flags given word.toList
      readWords level progress rest
    else do
      let given ← given.takeWord level.words word
      readWords level (.done given) rest

/-- The words up to the name of a command, that name, and the words after it. -/
structure Split where
  top : Given
  command : String
  rest : List String

/-- What the command `help` shows: this program, or one command of it. -/
def helpOn (words : List String) : Stop :=
  match words with
  | [] => .help
  | [name] => if name = "help" || (levels.lookup name).isSome then .help else .misuse
  | _ => .misuse

/-- Reads the words up to the name of a command. -/
def readTop : Given → List String → Except Stop Split
  | _, [] => .error .misuse
  | given, word :: rest =>
    if word = "help" then .error (helpOn rest)
    else if (levels.lookup word).isSome then .ok { top := given, command := word, rest }
    else if word = "--" then .error .misuse
    else if isOption word then do
      match ← readOption topFlags given word.toList with
      | .done given => readTop given rest
      | .waiting _ _ => .error .misuse
    else .error .misuse

/-- Refuses a level that asks for more and for less in the log. -/
def Given.checkLog (given : Given) : Except Stop Unit :=
  if given.has "verbose" && given.has "quiet" then .error .misuse else .ok ()

/-- The options of an analysis that were given. -/
def Given.analysisOptions (given : Given) : AnalysisOptions :=
  { output := given.value? "output"
    format := (given.value? "format").bind Report.Format.ofName?
    whitelistJson := given.value? "whitelist-json"
    whitelistFile := given.value? "whitelist-file"
    settingsFile := given.value? "config"
    noBuiltInWhitelist := given.has "no-default-whitelist"
    noDemangle := given.has "no-demangle"
    serial := given.has "serial" }

/-- The request of a command with what was given to it. What it needs must be there. -/
def request (command : String) (given : Given) : Except Stop Request :=
  match command with
  | "scan" =>
    match given.words with
    | [binary] => .ok (.scan binary (given.value? "otool") given.analysisOptions)
    | _ => .error .misuse
  | "analyze-dump" =>
    match given.value? "dump" with
    | some dump => .ok (.analyzeDump dump (given.value? "selrefs") given.analysisOptions)
    | none => .error .misuse
  | "list-providers" => .ok (.listProviders (given.has "json"))
  | _ => .ok (.showWhitelist (given.has "json"))

/-- What a command line asks for. -/
def parse (words : List String) : Except Stop Invocation := do
  let split ← readTop {} words
  match levels.lookup split.command with
  | none => .error .misuse
  | some level =>
    let given ← readWords level (.done {}) split.rest
    given.checkLog
    let request ← request split.command given
    split.top.checkLog
    return { verbose := split.top.has "verbose" || given.has "verbose"
             quiet := split.top.has "quiet" || given.has "quiet"
             request }

end DeadSymbols.Command
