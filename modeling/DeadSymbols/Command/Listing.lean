import DeadSymbols.Json.Value
import DeadSymbols.Provider
import DeadSymbols.Whitelist

/-!
Contract: the commands that print what the program knows: its providers and its whitelist.
-/

namespace DeadSymbols.Command

open DeadSymbols.Host

/-- What is said about a provider. -/
def describe (name : String) : String :=
  if name = "otool" then
    "Runs `otool -oV` and `otool -v -s __DATA __objc_selrefs` (override with MACHSWEEP_OTOOL)"
  else "Provider '" ++ name ++ "'"

/-- The providers with their descriptions, ascending by name. -/
def providers : List (String × String) :=
  ((Registry.standard.names.map fun name => (name, describe name)) ++
    [("files", "Pre-captured dump files (used by `analyze-dump`)")]).mergeSort
      fun left right => left.1 ≤ right.1

/-- The listing of the providers. -/
def providerListing (json : Bool) : String :=
  if json then
    String.ofList (Json.Value.pretty <| .array <| providers.map fun (name, description) =>
      .object [("name", .string name), ("description", .string description)]) ++ "\n"
  else
    "Providers:\n" ++ String.join (providers.map fun (name, description) =>
      "- " ++ name ++ ": " ++ description ++ "\n")

/-- The listing of the built-in whitelist. -/
def whitelistListing (json : Bool) : String :=
  if json then String.ofList (Json.strings Whitelist.builtIn).pretty ++ "\n"
  else
    "Default whitelist (" ++ toString Whitelist.builtIn.length ++ "):\n" ++
      String.join (Whitelist.builtIn.map fun selector => "  - " ++ selector ++ "\n")

/-- Prints the providers. -/
def listProviders (json : Bool) : HostM Unit := print (providerListing json)

/-- Prints the built-in whitelist. -/
def showWhitelist (json : Bool) : HostM Unit := print (whitelistListing json)

end DeadSymbols.Command
