import DeadSymbols.Ordered.NameMap

/-!
Contract: asking for names, and remembering the answers.

A demangler is asked for a better name and may have none. It may keep a state, so that each
answer depends on the calls before it. A memo around a demangler asks it once for each name and
gives the remembered answer afterwards, also when the answer was that there is no better name.

Owns: the memo and its two accesses, the name in use under an answer.
Does not own: where answers come from (`Name.Demangler`).
-/

namespace DeadSymbols.Name

/-- Answers with a better name, if there is one, under a state. -/
abbrev Demangler (σ : Type) : Type := String → StateM σ (Option String)

/-- The answers that are remembered, by name. -/
abbrev Cache : Type := NameMap (Option String)

/-- A demangler that remembers the answers of another. -/
def memo {σ : Type} (inner : Demangler σ) : Demangler (Cache × σ) := fun name (cache, state) =>
  match cache.get? name with
  | some answer => (answer, (cache, state))
  | none =>
    let (answer, next) := inner name state
    (answer, (cache.set name answer, next))

/-- The name in use: the better name, unless it is missing or empty. -/
def orRaw (raw : String) (answer : Option String) : String :=
  match answer with
  | some name => if name.isEmpty then raw else name
  | none => raw

/-- The name in use for a raw one. -/
def resolve {σ : Type} (demangler : Demangler σ) (raw : String) : StateM σ String := do
  return orRaw raw (← demangler raw)

/-- The names in use for several raw ones, asked for in turn. -/
def resolveAll {σ : Type} (demangler : Demangler σ) : List String → StateM σ (List String)
  | [] => return []
  | raw :: rest => do
    let name ← resolve demangler raw
    return name :: (← resolveAll demangler rest)

end DeadSymbols.Name
