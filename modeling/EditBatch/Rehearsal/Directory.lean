import EditBatch.CommandLine.Options
import EditBatch.Text.Split

/-! A working directory with some files, to rehearse the command line.

Names are followed step by step from the directory. Beside its files, of the whole file system
only the root, the usual directories below it and the empty device are known.
-/

set_option autoImplicit false

namespace EditBatch.Rehearsal

open EditBatch.CommandLine EditBatch.Text

abbrev Directory := List (String × String)

def usualDirectories : List String :=
  ["", "bin", "dev", "etc", "home", "proc", "root", "tmp", "usr", "var"]

namespace Directory

def absolute (name : String) : FileState :=
  if usualDirectories.contains name then .directory
  else if name = "dev/null" then .file ""
  else .missing

def isDirectory (directory : Directory) (name : String) : Bool :=
  name = "" || directory.any fun (file, _) => (name ++ "/").toList.isPrefixOf file.toList

def relative (directory : Directory) (name : String) : FileState :=
  match directory.lookup name with
  | some content => .file content
  | none => if directory.isDirectory name then .directory else .missing

def named (segments : List String) : String := "/".intercalate segments

/-- Follows the steps of a name from a place in the directory, given by the steps that led there,
the last one first. Steps that leave the directory lead to directories only. -/
def follow (directory : Directory) (place : List String) : List String → FileState
  | [] => directory.relative (named place.reverse)
  | step :: rest =>
    if directory.relative (named place.reverse) ≠ .directory then .missing
    else if step = "" || step = "." then directory.follow place rest
    else if step = ".." then
      match place with
      | _ :: place => directory.follow place rest
      | [] => if rest.all fun step => ["", ".", ".."].contains step then .directory else .missing
    else directory.follow (step :: place) rest

def lookAt (directory : Directory) (name : String) : FileState :=
  let steps := (splitAt '/' name.toList).map String.ofList
  match steps with
  | [""] => .missing
  | "" :: rest => absolute (named (rest.filter fun step => step ≠ "" && step ≠ "."))
  | steps => directory.follow [] steps

example : lookAt [("a", "x")] "./a" = .file "x" ∧ lookAt [("a", "x")] "a/" = .missing := by
  decide +kernel
example : lookAt [("d/a", "x")] "d/../.." = .directory ∧ lookAt [] "e/.." = .missing := by
  decide +kernel

end Directory

end EditBatch.Rehearsal
