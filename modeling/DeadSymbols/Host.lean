import DeadSymbols.Host.FileTree
import DeadSymbols.Host.Log
import DeadSymbols.Image.MachO
import DeadSymbols.Ordered.NameMap

/-!
Contract: what a command sees of its surroundings, and what it leaves there.

A host holds files and programs, a working directory and environment variables. A command
changes the files, prints, logs and runs programs; each of these is a change of the host, so a
command is a function from hosts to hosts. What lies outside of the commands is a part of the host
too: the storage behind its files, the check that tells images from other files, the schedules of
its pools.

A program whose name has a slash is run from that path. Any other name is looked for in the
directories of the variable `PATH`, one after another.

Owns: the host, the effects on it, the search for programs.
Does not own: how a real machine is turned into a host (`Main`).
-/

namespace DeadSymbols

/-- The surroundings of a command. -/
structure Host where
  tree : FileTree
  workDir : Location
  environment : List (String × String)
  /-- The directory for temporary files. -/
  tempDir : String
  /-- The name of the next temporary directory. -/
  freshName : String
  /-- The time, as a report gives it. -/
  now : String
  /-- The runs of programs so far: the program's label and its arguments. -/
  runs : List (List String)
  log : List LogLine
  printed : String
  /-- Whose turn it is in the pools of workers to come, a schedule for each. -/
  schedules : List (List Nat) := []
  /-- The obstacles to changes of the files; there are none unless they are given. -/
  storage : Storage := fun _ => none
  /-- The kind of image that octets are; `none` when they are no image. -/
  imageKind? : ByteArray → Option MachO.Kind := MachO.kind?

/-- A command on a host. -/
abbrev HostM : Type → Type := StateM Host

namespace Host

/-- The path of the working directory. -/
def workPath (host : Host) : String := FileTree.pathOf host.workDir

/-- The value of an environment variable. -/
def envValue? (host : Host) (name : String) : Option String := host.environment.lookup name

/-- Whether a path leads to a file. -/
def isFile (host : Host) (path : String) : Bool := host.tree.isFile host.workDir path

/-- The content of a file. -/
def read (host : Host) (path : String) : Except FileError ByteArray :=
  host.tree.read host.workDir path

/-- The text of a file. -/
def readText (host : Host) (path : String) : Except FileError String :=
  host.tree.readText host.workDir path

/-- The absolute form of a path: where it leads, or the path from the working directory when it
leads nowhere. -/
def absolute (host : Host) (path : String) : String :=
  if Path.isHere path then host.workPath
  else
    match host.tree.resolve host.workDir path with
    | .ok location => FileTree.pathOf location
    | .error _ => Path.join host.workPath path

/-- Adds a line to the log. -/
def addLog (level : Level) (message : String) (fields : List (String × String)) : HostM Unit :=
  modify fun host => { host with log := host.log ++ [{ level, message, fields }] }

/-- Prints a text. -/
def print (text : String) : HostM Unit :=
  modify fun host => { host with printed := host.printed ++ text }

/-- Takes the schedule of the next pool of workers. -/
def nextSchedule : HostM (List Nat) :=
  modifyGet fun host => (host.schedules.headD [], { host with schedules := host.schedules.tail })

/-- The directories in which programs are looked for. -/
def searchPath (host : Host) : List String :=
  match host.envValue? "PATH" with
  | some path => path.splitOn ":"
  | none => ["/bin", "/usr/bin"]

/-- The program at a path. What is not a program cannot be run. -/
def programAt (host : Host) (path : String) : Except FileError Program :=
  match host.tree.entryAt host.workDir path with
  | .ok (.program program) => .ok program
  | .ok _ => .error .denied
  | .error error => .error error

/-- The first program of a name in a list of directories. When there is none, the error is that of
the last directory, unless something that cannot be run had the name in an earlier one. -/
def programIn (host : Host) (name : String) : List String → Except FileError Program
  | [] => .error .notFound
  | directory :: rest =>
    match host.programAt (Path.join directory name), rest with
    | .ok program, _ => .ok program
    | .error error, [] => .error error
    | .error error, _ :: _ =>
      (host.programIn name rest).mapError fun later => if error = .denied then .denied else later

/-- The program that a name stands for. -/
def program (host : Host) (name : String) (arguments : List String) : Except FileError Program :=
  if (name :: arguments).any (·.toList.contains '\x00') then .error .nulInArgument
  else if name.isEmpty then .error .notFound
  else if name.toList.contains '/' then host.programAt name
  else host.programIn name host.searchPath

/-- Runs a program. -/
def run (name : String) (arguments : List String) : HostM (Except FileError RunResult) :=
  fun host =>
    match host.program name arguments with
    | .error error => (.error error, host)
    | .ok program =>
      (.ok (program.run arguments),
        { host with runs := host.runs ++ [program.label :: arguments] })

end Host

end DeadSymbols
