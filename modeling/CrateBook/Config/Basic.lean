import CrateBook.Config.Merge
import CrateBook.Digest.Sha256
import CrateBook.Json.Writer
import CrateBook.Yaml.Value

/-!
# Configurations

A configuration is an object of sections. What a user writes is merged into the standard
configuration. The digest of a configuration covers only the sections that change what is written
to pages, and does not depend on the order of their members.
-/

namespace CrateBook.Config

/-- The configuration where nothing is configured. -/
def standard : Json := .obj [
  ("output", .obj [("dir_name", .str "docmd"), ("metadata_file", .str "metadata.json"),
    ("report_file", .str "build-report.json")]),
  ("build", .obj [("format", .str "html"), ("fail_fast", .bool false)]),
  ("skip", .obj [("tags", .arr []), ("ids", .arr []), ("class_substrings", .arr [])])]

/-- The name of the file that is read when no other one is named. -/
def fileName : String := "docmd.yml"

/-- The standard configuration with what a user has written in YAML. -/
def ofYaml (text : String) : Except Fault Json := do
  merge standard (← Yaml.read text).orObject

/-- The text whose digest tells configurations apart. -/
def canonicalText (config : Json) : String :=
  let relevant : Json := .obj [("build", (config.get? "build").getD .null),
    ("skip", (config.get? "skip").getD .null)]
  relevant.sortKeys.compact

/-- The digest of a configuration. -/
def digest (config : Json) : String := Digest.sha256Text (canonicalText config)

end CrateBook.Config
