import Constituency.Text.Split

/-!
# Folders

A path names a file by way of the folders it lies in. It is followed name by name from the folder
where one stands; a dot stays there and two dots lead to the folder around it. Of what lies outside
the folder where a path starts nothing is known but that it is made of folders and that the null
device reads as an empty text.
-/
namespace Constituency

open Constituency.Text

/-- Why there is no text to be read under a path. -/
inductive FileError where
  | notFound
  | notFolder
  | isFolder
  | nameTooLong
  | other (reason : String)
deriving DecidableEq, Repr

def FileError.message : FileError → String
  | .notFound => "No such file or directory (os error 2)"
  | .notFolder => "Not a directory (os error 20)"
  | .isFolder => "Is a directory (os error 21)"
  | .nameTooLong => "File name too long (os error 36)"
  | .other reason => reason

/-- The names that a path consists of. -/
def pathNames (path : String) : List String := (pieces '/' path.toList).map String.ofList

/-- A folder with all the files in it and in the folders below it. -/
structure Folder where
  /-- The names that lead to each file, and its text. -/
  files : List (List String × String)
deriving DecidableEq, Repr

namespace Folder

/-- The most bytes of a name. -/
def maxName : Nat := 255

/-- The most bytes of a path. -/
def maxPath : Nat := 4095

def ofFiles (files : List (String × String)) : Folder :=
  ⟨files.map fun (path, text) => ((pathNames path).filter fun name => name ≠ "" ∧ name ≠ ".", text)⟩

/-- Whether a folder lies where some names lead. -/
def hasFolder (folder : Folder) (names : List String) : Bool :=
  folder.files.any fun (file, _) => names.isPrefixOf file && names != file

/--
Follows names from `here`, which is `none` outside the folder, and reads the file at their end.
A file that is followed by anything, be it a slash, is taken for a folder and is none.
-/
def follow (folder : Folder) : Option (List String) → List String → Except FileError String
  | _, [] => .error .isFolder
  | here, name :: rest =>
    if name = "" ∨ name = "." then folder.follow here rest
    else if name = ".." then
      folder.follow (here.bind fun here => if here = [] then none else some here.dropLast) rest
    else if maxName < name.utf8ByteSize then .error .nameTooLong
    else
      match here with
      | none => .error .notFound
      | some here =>
        match folder.files.lookup (here ++ [name]) with
        | some text => if rest.isEmpty then .ok text else .error .notFolder
        | none =>
          if folder.hasFolder (here ++ [name]) then folder.follow (some (here ++ [name])) rest
          else .error .notFound

/-- The path of the null device. -/
def nullDevice : String := "/dev/null"

/-- Reads the file that a path names. -/
def read (folder : Folder) (path : String) : Except FileError String :=
  if path = nullDevice then .ok ""
  else if path = "" then .error .notFound
  else if maxPath < path.utf8ByteSize then .error .nameTooLong
  else folder.follow (if path.toList.head? = some '/' then none else some []) (pathNames path)

example : ((ofFiles [("a/b", "x")]).read "./a/../a//b").toOption = some "x" := by decide +kernel

example : ((ofFiles [("a/b", "x")]).read "a/b/").toOption = none := by decide +kernel

end Folder

end Constituency
