import Constituency.Analyzer
import Constituency.Folder
import Constituency.Korean.Grammar
import Constituency.Korean.Tags
import Constituency.TagTable.Reader

/-!
# The command line

A session reads the arguments, loads a grammar and a tag table, and answers each line of standard
input with the analyses of its sentences. All of it is a function of the arguments, the files and
the input, and each line is answered on its own.
-/
namespace Constituency.CommandLine

open Constituency.Text

/-- The name under which the program speaks of itself. -/
def programName : String := "hanparse"

def usage : String :=
  "Usage: " ++ programName ++ " [options]\n\n" ++
  "Reads word:tag;word:tag;... lines from stdin and prints their parse.\n\n" ++
  "Options:\n" ++
  "  -h, --help           Print this message\n" ++
  "  -f, --full-detail    Keep single-child nodes in the tree\n" ++
  "  -g, --grammar FILE   Grammar file (defaults to the built-in Korean grammar)\n" ++
  "  -t, --tags FILE      Tag table file (defaults to the built-in Korean tag table)\n" ++
  "  -s, --steps N        Give up a sentence after N production attempts"

/-! ## Arguments -/

structure Invocation where
  grammarFile : Option String := none
  tagFile : Option String := none
  options : AnalyzeOptions := {}
deriving DecidableEq, Repr

inductive ArgumentError where
  | noGrammarFile
  | noTagFile
  | noSteps
  | unknown (argument : String)
deriving DecidableEq, Repr

def ArgumentError.message : ArgumentError → String
  | .noGrammarFile => "missing grammar file"
  | .noTagFile => "missing tag file"
  | .noSteps => "--steps needs a number"
  | .unknown argument => "unknown argument " ++ argument

/-- What the arguments ask for. -/
inductive Request where
  | help
  | analyze (invocation : Invocation)
deriving DecidableEq, Repr

def Invocation.withSteps (invocation : Invocation) (steps : Nat) : Invocation :=
  { invocation with options.parse.maxSteps := some steps }

/-- Reads arguments from left to right; the first one that settles the request is the last one. -/
def readArguments (invocation : Invocation) : List String → Except ArgumentError Request
  | [] => .ok (.analyze invocation)
  | argument :: rest =>
    if argument = "-h" ∨ argument = "--help" then .ok .help
    else if argument = "-f" ∨ argument = "--full-detail" then
      readArguments { invocation with options.fullDetail := true } rest
    else if argument = "-g" ∨ argument = "--grammar" then
      match rest with
      | [] => .error .noGrammarFile
      | file :: rest => readArguments { invocation with grammarFile := some file } rest
    else if argument = "-t" ∨ argument = "--tags" then
      match rest with
      | [] => .error .noTagFile
      | file :: rest => readArguments { invocation with tagFile := some file } rest
    else if argument = "-s" ∨ argument = "--steps" then
      match rest with
      | [] => .error .noSteps
      | number :: rest =>
        match readNatural number.toList with
        | some steps => readArguments (invocation.withSteps steps) rest
        | none => .error .noSteps
    else .error (.unknown argument)

/-! ## Loading -/

/-- The content of the file under each path, or the reason why there is none. -/
abbrev Files := String → Except FileError String

inductive LoadError where
  | file (path : String) (reason : FileError)
  | grammar (error : GrammarError)
  | table (error : TagTableError)
deriving DecidableEq, Repr

def LoadError.message : LoadError → String
  | .file path reason => path ++ ": " ++ reason.message
  | .grammar error => error.message
  | .table error => error.message

def readFile (files : Files) (path : String) : Except LoadError String :=
  (files path).mapError (.file path)

def loadGrammar (files : Files) : Option String → Except LoadError Grammar
  | none => .ok Korean.grammar
  | some path => do
    (Grammar.read (← readFile files path)).mapError .grammar

/-- The number of the first rule of a session. -/
def firstOrdinal : Nat := 1

def loadTable (files : Files) : Option String → Except LoadError TagTable
  | none => .ok (Korean.tagTable firstOrdinal).1
  | some path => do
    (TagTable.read (← readFile files path) firstOrdinal).1.mapError .table

/-- Loads the grammar, then the tag table. -/
def load (files : Files) (invocation : Invocation) : Except LoadError Analyzer := do
  return ⟨← loadGrammar files invocation.grammarFile, ← loadTable files invocation.tagFile⟩

/-! ## Answers -/

/-- What is written to the two output channels. -/
structure Output where
  out : String := ""
  err : String := ""
deriving DecidableEq, Repr

namespace Output

def append (first second : Output) : Output := ⟨first.out ++ second.out, first.err ++ second.err⟩

instance : Append Output := ⟨append⟩

@[simp] theorem out_append (a b : Output) : (a ++ b).out = a.out ++ b.out := rfl

@[simp] theorem err_append (a b : Output) : (a ++ b).err = a.err ++ b.err := rfl

end Output

def line (text : String) : String := text ++ "\n"

def displayPhrase (phrase : List PhraseEntry) : String :=
  line ("  " ++ String.intercalate " " (phrase.map PhraseEntry.display))

def displayReference (reference : TagTable.Reference) : String :=
  line ("  " ++ reference.word ++ " (" ++ reference.label.getD reference.tag ++ "): " ++
    String.intercalate " " reference.links) ++
  match reference.notes with
  | some notes => line ("    " ++ notes)
  | none => ""

def displayReferences : List TagTable.Reference → String
  | [] => ""
  | references => line "references:" ++ String.join (references.map displayReference)

def displayAnalysis (analysis : Analysis) : String :=
  line ("tags: " ++ joinTokens analysis.mapped) ++ line analysis.tree.display ++
    line "phrases:" ++ String.join (analysis.phrases.map displayPhrase) ++
    displayReferences analysis.references ++ line ""

def displayResult : Except ParseError Analysis → String
  | .ok analysis => displayAnalysis analysis
  | .error error => line (line ("no parse: " ++ error.message))

/-- The answer to a line: the analyses of its sentences, or why it is no list of tokens. -/
def respond (analyzer : Analyzer) (options : AnalyzeOptions) (input : String) : Output :=
  match readTokens (String.ofList (trim input.toList)) with
  | .ok tokens => { out := String.join ((analyzer.analyzeText tokens options).map displayResult) }
  | .error error => { err := line error.message }

def prompt : Output := { out := "> " }

/-- A session on some lines: a prompt in front of each line, and one at the end. -/
def session (analyzer : Analyzer) (options : AnalyzeOptions) : List String → Output
  | [] => prompt
  | input :: rest => prompt ++ respond analyzer options input ++ session analyzer options rest

/-! ## Runs -/

structure Outcome where
  code : Nat
  output : Output
deriving DecidableEq, Repr

/-- How a run begins: it ends at once, or a session is opened. -/
inductive Opening where
  | ended (outcome : Outcome)
  | session (analyzer : Analyzer) (options : AnalyzeOptions)

def openSession (arguments : List String) (files : Files) : Opening :=
  match readArguments {} arguments with
  | .error error =>
    .ended ⟨255, { err := line ("argument error: " ++ error.message ++ ".\n\n" ++ usage) }⟩
  | .ok .help => .ended ⟨0, { out := line usage }⟩
  | .ok (.analyze invocation) =>
    match load files invocation with
    | .error error => .ended ⟨1, { err := line ("Error: " ++ quoted error.message) }⟩
    | .ok analyzer => .session analyzer invocation.options

def inputLines (input : String) : List String := (lines input.toList).map String.ofList

/-- A whole run on some input. -/
def run (arguments : List String) (files : Files) (input : String) : Outcome :=
  match openSession arguments files with
  | .ended outcome => outcome
  | .session analyzer options => ⟨0, session analyzer options (inputLines input)⟩

end Constituency.CommandLine
