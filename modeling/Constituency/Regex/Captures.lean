import Constituency.Regex.Reader
import Constituency.Regex.Search
import Constituency.Text.Natural

/-!
# Matches and what they captured

A match gives the text of each capture group that took part in it. A template names groups behind
dollar signs, by number or by name, and is expanded by putting the captured texts in their place; a
group that is unknown or took no part leaves nothing behind.
-/
namespace Constituency

namespace Regex

open Constituency.Text

structure Captures where
  text : Array Char
  saved : List (Nat × Nat)
  names : List (Option String)
deriving Repr

namespace Captures

/-- The text of a group; group 0 is the whole match. -/
def group (captures : Captures) (index : Nat) : Option (List Char) :=
  match captures.saved.lookup (2 * index), captures.saved.lookup (2 * index + 1) with
  | some start, some stop => some ((captures.text.toList.take stop).drop start)
  | _, _ => none

def named (captures : Captures) (name : String) : Option (List Char) :=
  match captures.names.idxOf? (some name) with
  | some index => captures.group (index + 1)
  | none => none

end Captures

/-- The match to be preferred among the leftmost ones. -/
def captures? (regex : Regex) (text : List Char) : Option Captures :=
  (search regex.program text.toArray).map fun thread =>
    { text := text.toArray, saved := thread.saved, names := regex.names }

def isMatch (regex : Regex) (text : List Char) : Bool :=
  (search regex.program text.toArray).isSome

end Regex

/-! ## Templates -/

namespace Template

open Constituency.Text

/-- A stretch of a template. -/
inductive Piece where
  | literal (c : Char)
  | numbered (index : Nat)
  | named (name : String)
deriving DecidableEq, Repr

/-- The characters that may follow a dollar sign without braces. -/
def isReferenceChar (c : Char) : Bool := c.isAlphanum || c == '_'

/-- A reference is a number if it reads as one, and otherwise a name. -/
def reference (text : List Char) : Piece :=
  match readNatural text with
  | some index => .numbered index
  | none => .named (String.ofList text)

/-- Splits off the piece that a dollar sign begins; the dollar sign is read already. -/
def readReference (rest : List Char) : Piece × List Char :=
  match rest with
  | '$' :: behind => (.literal '$', behind)
  | '\x7b' :: inside =>
    match inside.dropWhile (· != '\x7d') with
    | _ :: behind => (reference (inside.takeWhile (· != '\x7d')), behind)
    | [] => (.literal '$', rest)
  | _ =>
    match rest.takeWhile isReferenceChar with
    | [] => (.literal '$', rest)
    | word => (reference word, rest.dropWhile isReferenceChar)

/-- Reads at most `room` pieces; a text has no more pieces than characters. -/
def readPieces : Nat → List Char → List Piece
  | 0, _ => []
  | _ + 1, [] => []
  | room + 1, c :: rest =>
    if c = '$' then
      let (piece, behind) := readReference rest
      piece :: readPieces room behind
    else .literal c :: readPieces room rest

def read (template : List Char) : List Piece := readPieces template.length template

def Piece.expand (captures : Regex.Captures) : Piece → List Char
  | .literal c => [c]
  | .numbered index => (captures.group index).getD []
  | .named label => (captures.named label).getD []

def expand (template : List Char) (captures : Regex.Captures) : List Char :=
  (read template).flatMap (·.expand captures)

end Template

end Constituency
