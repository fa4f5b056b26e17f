import Constituency.Text.Blank
import Constituency.Text.Quoted
import Constituency.Text.Split

/-!
# Tagged words

A token is a word with a part-of-speech tag, written `word:tag`. The last colon separates the two,
so a word may hold colons. A list of tokens is written with semicolons between them; a semicolon
with a colon right behind it is the word of a token and separates nothing.
-/
namespace Constituency

open Constituency.Text

structure Token where
  word : String
  tag : String
deriving DecidableEq, Repr

/-- The tag of the mark that ends a sentence. -/
def sentenceFinalTag : String := "SF"

inductive TokenError where
  | noTag (text : String)
deriving DecidableEq, Repr

def TokenError.message : TokenError → String
  | .noTag text => "token needs a word:tag form, got " ++ quoted text

namespace Token

def isSentenceFinal (token : Token) : Bool := token.tag == sentenceFinalTag

def display (token : Token) : String := token.word ++ ":" ++ token.tag

/-- Reads one token. Blanks around it are dropped, and the tag is not empty. -/
def read (text : List Char) : Except TokenError Token :=
  match splitLast ':' (trim text) with
  | some (word, tag) =>
    if tag.isEmpty then .error (.noTag (String.ofList text))
    else .ok ⟨String.ofList word, String.ofList tag⟩
  | none => .error (.noTag (String.ofList text))

end Token

/-- The parts of a token list: every semicolon ends one, unless a colon follows it. -/
def tokenParts : List Char → List (List Char)
  | [] => [[]]
  | c :: rest =>
    if c = ';' ∧ rest.head? ≠ some ':' then [] :: tokenParts rest
    else match tokenParts rest with
      | [] => [[c]]
      | first :: others => (c :: first) :: others

/-- Reads a token list. Parts of blanks only are skipped. -/
def readTokens (text : String) : Except TokenError (List Token) :=
  ((tokenParts text.toList).filter fun part => !isBlankText part).mapM Token.read

/-- Writes tokens in the form that token lists are read from. -/
def joinTokens (tokens : List Token) : String :=
  String.intercalate ";" (tokens.map Token.display)

/-- Cuts a list of tokens behind each sentence-final one. -/
def splitSentences : List Token → List (List Token)
  | [] => []
  | token :: rest =>
    if token.isSentenceFinal then [token] :: splitSentences rest
    else match splitSentences rest with
      | [] => [[token]]
      | sentence :: others => (token :: sentence) :: others

theorem flatten_splitSentences (tokens : List Token) :
    (splitSentences tokens).flatten = tokens := by
  induction tokens with
  | nil => rfl
  | cons token rest ih =>
    simp only [splitSentences]
    split
    · simp [ih]
    · cases cut : splitSentences rest with
      | nil => simp_all
      | cons sentence others => simp_all

end Constituency
