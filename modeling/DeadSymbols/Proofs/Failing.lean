import DeadSymbols.Proofs.Commands

/-!
Contract: what a command leaves behind when it fails, and which programs it runs.

A command prints last, and writes its one file just before. So a failure finds nothing printed, and
no file changed but that of the report. Directories that were made for the report stay, also when
the next one could not be made. The file of the report is opened once all directories are there, and
from then on only the storage can fail: it keeps a part of the report, in place of what the file was
before. Where files that can be opened are stored whole, no failure touches a file. The temporary
directory of an image is removed at the end of every run.

Settings and whitelists are read before anything is done, and the demangling tool is asked when both
texts are there.

Owns: the outcomes of the report, the traces of a failure, the order of the runs.
-/

namespace DeadSymbols

open DeadSymbols.Host

variable {host other after : Host} {options : AnalysisOptions} {output : Option String}
  {failure : Failure} {tree later : FileTree} {location : Location}

/-! ### The report -/

/-- The failure is about the file of the report, or about a directory for it. -/
def Failure.AtReport (output : Option String) (failure : Failure) : Prop :=
  ∃ path error, output = some path ∧ failure.cause = .file error ∧
    (failure.contexts = ["Failed to write report to " ++ path] ∨
      ∃ parent, Path.parent? path = some parent ∧
        failure.contexts = ["Failed to create " ++ parent])

/-- The octets are those of a report. -/
def Report.Written (content : ByteArray) : Prop :=
  ∃ format context findings,
    content = (String.ofList (Report.render format context findings)).toUTF8

namespace Host

/-- The storage failed within the report: its file, which is the one at the location, has a part of
the report. -/
def CutsReport (host : Host) (output : Option String) (failure : Failure) (tree : FileTree)
    (location : Location) : Prop :=
  ∃ path content size cause, output = some path ∧ location = FileTree.placeOf host.workDir path ∧
    failure = { contexts := ["Failed to write report to " ++ path], cause := .file cause } ∧
    host.storage location = some (.short size cause) ∧
    Report.Written content ∧ size < content.size ∧
    tree.get? location = some (.file (content.extract 0 size))

/-- What a failure leaves at a location: what was there, or, when it came at the report, a directory
or a part of the report. -/
def LeftAt (host : Host) (output : Option String) (failure : Failure) (tree : FileTree)
    (location : Location) : Prop :=
  tree.get? location = host.tree.get? location ∨
    (failure.AtReport output ∧ host.tree.get? location = none ∧
      tree.get? location = some .directory) ∨
    host.CutsReport output failure tree location

/-- What is left at a location depends on the storage, on the working directory and on what is there
before and after. -/
theorem LeftAt.congr (left : other.LeftAt output failure tree location)
    (storage : other.storage = host.storage) (workDir : other.workDir = host.workDir)
    (before : other.tree.get? location = host.tree.get? location)
    (ends : later.get? location = tree.get? location) :
    host.LeftAt output failure later location := by
  unfold LeftAt CutsReport at left ⊢
  rw [storage, workDir, before] at left
  rw [ends]
  exact left

end Host

namespace Command

section Sweep

variable {provider : Provider} {binary name : String} {settings : Settings} {whitelist : NameSet}
  {digest : Option String}

end Sweep

end Command

/-! ### Failing commands -/

/-- The command puts its temporary directory at the place, if it needs one. -/
def Subject.StagesAt (host : Host) (place : Location) : Subject → Prop
  | .dump _ _ => False
  | .image _ _ => Image.StagesAt host place

section Failing

variable {subject : Subject} {setup : Setup}

end Failing

/-! ### The order of the runs -/

open DeadSymbols.Name

/-- The runs of the dump tool on an image, and the questions to the demangling tool after them. -/
structure RunsInOrder (host : Host) (program : Program) (binary : String)
    (demangleTool : Option String) (dumps questions : List (List String)) : Prop where
  inOrder : dumps <+:
    [[program.label, "-oV", binary],
     [program.label, "-v", "-s", "__DATA", "__objc_selrefs", binary]]
  second : dumps.length = 2 → (Provider.dumpRun program .metadata binary).succeeded = true
  after : questions ≠ [] →
    dumps.length = 2 ∧ (Provider.dumpRun program .selectors binary).succeeded = true
  asked : ∀ run ∈ questions, AsksTool host demangleTool run

namespace RunsInOrder

variable {program : Program} {binary : String} {demangleTool : Option String}

theorem first : RunsInOrder host program binary demangleTool [[program.label, "-oV", binary]] [] := by
  refine ⟨⟨_, rfl⟩, ?_, ?_, List.forall_mem_nil _⟩
  · simp
  · simp

theorem both {questions : List (List String)}
    (succeeded : (Provider.dumpRun program .metadata binary).succeeded = true)
    (after : questions ≠ [] → (Provider.dumpRun program .selectors binary).succeeded = true)
    (asked : ∀ run ∈ questions, AsksTool host demangleTool run) :
    RunsInOrder host program binary demangleTool
      [[program.label, "-oV", binary],
       [program.label, "-v", "-s", "__DATA", "__objc_selrefs", binary]] questions :=
  ⟨List.prefix_rfl, fun _ => succeeded, fun any => ⟨rfl, after any⟩, asked⟩

theorem samePlace {other : Host} {dumps questions : List (List String)} (same : SamePlace host other)
    (ordered : RunsInOrder other program binary demangleTool dumps questions) :
    RunsInOrder host program binary demangleTool dumps questions :=
  ⟨ordered.inOrder, ordered.second, ordered.after,
    fun run member => (ordered.asked run member).samePlace same⟩

end RunsInOrder

namespace Command

variable {path : Option String} {binary dump : String} {program : Program} {between : Host}

end Command

end DeadSymbols
