import CrateBook.Disk
import CrateBook.Html.Tree
import CrateBook.Page.Stray

/-!
# Pages on disk

A page is read from a file and converted. What is wrong with the file or with its markup is a
problem of that page; a path that is none and an entry of the skip tables that is no text are
faults.
-/

namespace CrateBook.Build

/-- The fault is one of a file that is read. -/
def isOfFile : Fault → Bool
  | .noSuchFile _ | .isDirectory _ | .notDirectory _ | .nameTooLong _ | .notUtf8 _ => true
  | _ => false

/-- The Markdown of a page on disk. -/
def convertPage (disk : Disk) (skip : Page.SkipRules) (p : Path) : Except Failure String :=
  match disk.read p with
  | .error f => .error (if isOfFile f then .problem (.badPage p.toString f.message) else .fault f)
  | .ok markup =>
    let doc := Html.parse markup
    match Page.markdown skip doc with
    | .error problem => .error (.problem (.badPage p.toString problem.message))
    | .ok s =>
      if Page.strays skip doc then
        .error (.fault (.typeMismatch "an entry of the class table is no text"))
      else .ok s

end CrateBook.Build
