import CrateBook.Error
import CrateBook.Listing.Index
import CrateBook.Path

/-!
# Notices

What the program reports while it works. A notice has a level, and a line in the log, which names
the part of the program that it comes from.
-/

namespace CrateBook

/-- How much a notice matters. -/
inductive Level where
  | info
  | warning
  | error
  deriving DecidableEq, Repr

/-- A notice. -/
inductive Notice where
  | duplicate (d : Listing.Duplicate)
  | reading (directory : Path)
  | found (count : Nat) (listing : Path)
  | skipped (itemPath cause : String)
  | progress (done total : Nat)
  | written (count : Nat) (directory : Path)
  | failures (count : Nat) (report : Path)
  | documenting (library : String)
  | dumping (library : String)
  | notBuilt (library : String)
  | configChanged (library : String)
  | unreadable (p : Problem)
  | noConfig (path : String)
  | failed (p : Problem)
  deriving DecidableEq, Repr

namespace Notice

/-- The level of a notice. -/
def level : Notice → Level
  | duplicate _ | skipped _ _ | failures _ _ | unreadable _ | noConfig _ => .warning
  | failed _ => .error
  | _ => .info

/-- The part of the program that a notice comes from. -/
def origin : Notice → String
  | duplicate _ => "docmd.build_item_index"
  | reading _ | found _ _ | skipped _ _ | written _ _ | failures _ _ => "docmd.build_docs"
  | progress _ _ => "docmd.write_corpus"
  | documenting _ | dumping _ => "docmd.cargo"
  | notBuilt _ | configChanged _ | unreadable _ => "docmd.show_item"
  | noConfig _ => "docmd.load_config"
  | failed _ => "docmd.cli"

/-- What a notice says, where `say` puts problems into words. -/
def textWith (say : Problem → String) : Notice → String
  | duplicate d =>
    "Duplicate listing entry " ++ d.name ++ ": " ++ d.earlier ++ " and " ++ d.later
  | reading directory => "Reading cargo doc output from " ++ directory.toString
  | found count listing => "Found " ++ toString count ++ " items in " ++ listing.toString
  | skipped itemPath cause => "Skipping " ++ itemPath ++ ": " ++ cause
  | progress done total =>
    "  ... wrote " ++ toString done ++ "/" ++ toString total ++ " files"
  | written count directory =>
    "Wrote " ++ toString count ++ " files to " ++ directory.toString
  | failures count report =>
    toString count ++ " items failed, see " ++ report.toString
  | documenting library => "Running cargo doc --package " ++ library ++ " --no-deps"
  | dumping library => "Running cargo +nightly rustdoc for " ++ library
  | notBuilt library => "No documentation for " ++ library ++ " yet, building"
  | configChanged library =>
    "Configuration changed since " ++ library ++ " was built, rebuilding"
  | unreadable p => say p ++ ", rebuilding"
  | noConfig path => "Configuration file " ++ path ++ " not found, using defaults"
  | failed p => say p

/-- The name of a level in the log. -/
def levelName : Level → String
  | .info => "INFO"
  | .warning => "WARNING"
  | .error => "ERROR"

/-- The line of a notice in the log, where `say` puts problems into words. -/
def lineWith (say : Problem → String) (n : Notice) : String :=
  levelName n.level ++ " " ++ n.origin ++ ": " ++ n.textWith say

/-- The line of a notice in the log. -/
def line (n : Notice) : String := n.lineWith Problem.message

end Notice

/-- Work that reports notices and may fail; notices stay when the work fails. -/
abbrev Reported := ExceptT Failure (StateM (List Notice))

/-- Reports a notice. -/
def report (n : Notice) : Reported Unit := modify (· ++ [n])

/-- Goes on with a value, or fails. -/
def orFailure (r : Except Failure α) : Reported α :=
  match r with
  | .ok a => pure a
  | .error f => throw f

/-- Goes on with a value, or fails with a problem. -/
def orProblem (r : Except Problem α) : Reported α :=
  match r with
  | .ok a => pure a
  | .error p => throw (.problem p)

/-- Goes on with a value, or fails with a fault. -/
def orFault (r : Except Fault α) : Reported α :=
  match r with
  | .ok a => pure a
  | .error f => throw (.fault f)

end CrateBook
