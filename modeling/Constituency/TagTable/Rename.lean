import Constituency.Text.Blank
import Constituency.Text.Quoted
import Constituency.Text.Split

/-!
# Renames

A rename tells which label a node above a leaf has to carry to be renamed, and its new label. It is
written `old:new`; blanks around the two labels are dropped, and neither is empty.
-/
namespace Constituency

open Constituency.Text

structure Rename where
  old : String
  new : String
deriving DecidableEq, Repr

inductive RenameError where
  | form (text : String)
deriving DecidableEq, Repr

def RenameError.message : RenameError → String
  | .form text => "rename needs an old:new form, got " ++ quoted text

namespace Rename

/-- Reads a rename. The first colon separates the labels, so only the new one may hold colons. -/
def read (text : String) : Except RenameError Rename :=
  match splitFirst ':' text.toList with
  | some (old, new) =>
    if isBlankText old || isBlankText new then .error (.form text)
    else .ok ⟨String.ofList (trim old), String.ofList (trim new)⟩
  | none => .error (.form text)

def display (rename : Rename) : String := rename.old ++ ":" ++ rename.new

end Rename

end Constituency
