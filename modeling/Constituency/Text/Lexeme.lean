import Constituency.Text.Blank
import Constituency.Text.Split

/-!
# Lexemes

Grammar texts and tag tables are made of the same few lexemes, with blanks and line comments
between them. Each reader takes its lexeme from the front of a text, as long as possible, and gives
the rest; where it cannot, the error says which lexeme was wanted and shows what stands there.
-/
namespace Constituency.Text

inductive Lexeme where
  | char (c : Char)
  | arrow
  /-- A letter, then letters, digits and underscores. -/
  | symbol
  /-- Letters, digits, minus signs and underscores. -/
  | name
  /-- A text between double quotes, in which a backslash escapes the character behind it. -/
  | string
deriving DecidableEq, Repr

/-- The kind of lexeme that an error names in front of its form. -/
def Lexeme.kind : Lexeme → String
  | .char _ => ""
  | .arrow => ""
  | .symbol => "symbol: "
  | .name => "name: "
  | .string => "string: "

/-- The form that an error shows for a lexeme. -/
def Lexeme.form : Lexeme → String
  | .char c => c.toString
  | .arrow => "^->"
  | .symbol => "^[a-zA-Z][a-zA-Z0-9_]*"
  | .name => "^[a-zA-Z0-9\\-_]+"
  | .string => "^\"(?:[^\"\\\\]|\\\\.)*\""

/-- A lexeme was wanted, and something else was found. -/
structure Missing where
  wanted : Lexeme
  found : String
deriving DecidableEq, Repr

def Missing.message (missing : Missing) : String :=
  missing.wanted.kind ++ "couldn't match " ++ missing.wanted.form ++ " at " ++ missing.found

/-- That the text does not begin with the lexeme. -/
def missing {α : Type} (wanted : Lexeme) (text : List Char) : Except Missing α :=
  .error ⟨wanted, snippet text⟩

/-- Skips blanks and comments; `inComment` says whether a comment is open. -/
def skipGap : Bool → List Char → List Char
  | _, [] => []
  | true, c :: rest => skipGap (c != '\n') rest
  | false, '/' :: '/' :: rest => skipGap true rest
  | false, c :: rest => if isBlank c then skipGap false rest else c :: rest

/-- Skips blanks and comments, which begin with two slashes and end with the line. -/
def skipBlank (text : List Char) : List Char := skipGap false text

def readChar (c : Char) (text : List Char) : Except Missing (List Char) :=
  match text with
  | first :: rest => if first = c then .ok rest else missing (.char c) text
  | [] => missing (.char c) text

def readArrow : List Char → Except Missing (List Char)
  | '-' :: '>' :: rest => .ok rest
  | text => missing .arrow text

def isSymbolChar (c : Char) : Bool := c.isAlphanum || c == '_'

def readSymbol (text : List Char) : Except Missing (String × List Char) :=
  match text with
  | first :: rest =>
    if first.isAlpha then
      .ok (String.ofList (first :: rest.takeWhile isSymbolChar), rest.dropWhile isSymbolChar)
    else missing .symbol text
  | [] => missing .symbol text

def isNameChar (c : Char) : Bool := c.isAlphanum || c == '-' || c == '_'

def readName (text : List Char) : Except Missing (String × List Char) :=
  match text.takeWhile isNameChar with
  | [] => missing .name text
  | name => .ok (String.ofList name, text.dropWhile isNameChar)

/-- What a character stands for behind a backslash. -/
def unescape (c : Char) : Char := if c = 'n' then '\n' else c

/-- The rest of a quoted text behind its opening quote. A line does not end behind a backslash. -/
def readQuotedRest : List Char → Option (List Char × List Char)
  | [] => none
  | '"' :: rest => some ([], rest)
  | '\\' :: c :: rest =>
    if c = '\n' then none
    else (readQuotedRest rest).map fun (text, behind) => (unescape c :: text, behind)
  | '\\' :: [] => none
  | c :: rest => (readQuotedRest rest).map fun (text, behind) => (c :: text, behind)

def readString (text : List Char) : Except Missing (String × List Char) :=
  match text with
  | '"' :: rest =>
    match readQuotedRest rest with
    | some (content, behind) => .ok (String.ofList content, behind)
    | none => missing .string text
  | _ => missing .string text

end Constituency.Text
