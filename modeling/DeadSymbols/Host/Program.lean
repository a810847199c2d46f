/-!
Contract: programs as their observable behaviour.

A program answers a list of arguments with what it writes and its exit code. It is given by
cases, of which the first that fits the arguments answers.
-/

namespace DeadSymbols

/-- What a run of a program leaves behind. -/
structure RunResult where
  output : ByteArray
  errors : ByteArray
  exitCode : Nat

/-- Whether a run ended well. -/
def RunResult.succeeded (result : RunResult) : Bool := result.exitCode = 0

/-- An answer of a program, for the arguments that it fits. -/
structure ProgramCase where
  first : Option String
  last : Option String
  result : RunResult

/-- Whether a case answers the given arguments. -/
def ProgramCase.fits (case : ProgramCase) (arguments : List String) : Bool :=
  (case.first.isNone || arguments.head? = case.first) &&
    (case.last.isNone || arguments.getLast? = case.last)

/-- A program: the name under which its runs are recorded, and its answers. -/
structure Program where
  label : String
  cases : List ProgramCase

/-- What a program's file holds when it is read: the mark of a script. -/
def Program.script : ByteArray := "#!".toUTF8

/-- The result of a run. Arguments that fit no case end in failure. -/
def Program.run (program : Program) (arguments : List String) : RunResult :=
  ((program.cases.find? (·.fits arguments)).map ProgramCase.result).getD
    { output := ByteArray.empty, errors := ByteArray.empty, exitCode := 127 }

end DeadSymbols
