import CrateBook.Json.Writer

/-!
# Reports on builds

A report on a build names the items whose pages were made and those whose pages could not be made,
with the causes. The clock of a report stands still, so that a report depends on nothing but the
build.
-/

namespace CrateBook.Corpus

/-- An item whose page could not be made, from which source, and why. -/
structure Omission where
  itemPath : String
  source : String
  cause : String
  deriving DecidableEq, Repr

/-- A report on a build. -/
structure Report where
  library : String
  digest : String
  converted : List String := []
  failures : List Omission := []
  deriving DecidableEq, Repr

namespace Report

/-- The report with one more item. -/
def addConverted (r : Report) (itemPath : String) : Report :=
  { r with converted := r.converted ++ [itemPath] }

/-- The report with one more failure. -/
def addFailure (r : Report) (o : Omission) : Report := { r with failures := r.failures ++ [o] }

/-- Every page was made. -/
def isComplete (r : Report) : Bool := r.failures.isEmpty

/-- A failure as a value. -/
def omissionJson (o : Omission) : Json :=
  .obj [("item_path", .str o.itemPath), ("source", .str o.source), ("error", .str o.cause)]

/-- The report as a value. -/
def toJson (r : Report) : Json := .obj [
  ("meta", .obj [("library", .str r.library), ("timestamp", .decimal "0.0"),
    ("duration", .decimal "0.0"), ("config_hash", .str r.digest)]),
  ("stats", .obj [("converted", .int r.converted.length), ("failed", .int r.failures.length)]),
  ("failures", .arr (r.failures.map omissionJson))]

/-- The text of a report. -/
def text (r : Report) : String := r.toJson.pretty ++ "\n"

/-- The report on one line. -/
def summary (r : Report) : String :=
  "Built documentation for " ++ r.library ++ " (" ++ toString r.converted.length ++ " items)" ++
    if r.isComplete then "" else ", " ++ toString r.failures.length ++ " failed"

end Report

end CrateBook.Corpus
