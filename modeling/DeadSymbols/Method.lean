/-!
Contract: methods and the classes that carry them.

A method is a selector together with the signature of one implementation of it. The signature
names the class and the selector: `[Class selector]`.
-/

namespace DeadSymbols

/-- The ivar teardown hook that compilers add to a class; never reported. -/
def teardownSelector : String := ".cxx_destruct"

/-- The signature of a class's implementation of a selector. -/
def signature (className selector : String) : String :=
  "[" ++ className ++ " " ++ selector ++ "]"

/-- One implementation of a selector. -/
structure Method where
  selector : String
  signature : String
deriving DecidableEq, Repr

/-- The implementation of a selector by a class. -/
def Method.of (className selector : String) : Method :=
  { selector, signature := DeadSymbols.signature className selector }

/-- A class and its methods, in the order of its record. -/
structure ClassRecord where
  className : String
  methods : List Method
deriving DecidableEq, Repr

end DeadSymbols
