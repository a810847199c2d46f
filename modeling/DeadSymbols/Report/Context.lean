/-!
Contract: what a report says about itself.
-/

namespace DeadSymbols.Report

/-- The version of this program. -/
def toolVersion : String := "0.1.0"

/-- The context printed alongside the findings. -/
structure Context where
  binaryName : String
  /-- The digest of the image, in hexadecimal digits. -/
  binaryDigest : Option String
  generatedAt : String
  toolVersion : String
deriving DecidableEq, Repr

end DeadSymbols.Report
