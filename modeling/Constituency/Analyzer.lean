import Constituency.Parser.Basic
import Constituency.TagTable.Retag
import Constituency.Tree.Normal
import Constituency.Tree.Phrases

/-!
# Analyses

An analyzer is a grammar with the tag table that feeds it. It retags a sentence, parses what
comes out, and normalizes the tree; the glossary is about the tags that were parsed, the
citations about the leaves that are left.
-/
namespace Constituency

structure AnalyzeOptions where
  /-- Keep nodes with an only child. -/
  fullDetail : Bool := false
  parse : ParseOptions := {}
deriving DecidableEq, Repr

/-- What is known about a sentence. -/
structure Analysis where
  tokens : List Token
  /-- The tokens behind the tag rules. -/
  mapped : List Token
  tree : Tree
  references : List TagTable.Reference
  glossary : List (String × PosEntry)
  phrases : List (List PhraseEntry)
deriving DecidableEq, Repr

structure Analyzer where
  grammar : Grammar
  table : TagTable

namespace Analyzer

def analyze (analyzer : Analyzer) (tokens : List Token) (options : AnalyzeOptions) :
    Except ParseError Analysis := do
  let mapped := analyzer.table.retag tokens
  let parsed ← analyzer.grammar.parse mapped options.parse
  let tree := parsed.normalize analyzer.grammar.flatten analyzer.table options.fullDetail
  return {
    tokens := tokens
    mapped := mapped
    tree := tree
    references := analyzer.table.references tree
    glossary := analyzer.table.glossaryFor mapped
    phrases := tree.phrases analyzer.grammar.hidden }

/-- Analyzes each sentence of a text on its own. -/
def analyzeText (analyzer : Analyzer) (tokens : List Token) (options : AnalyzeOptions) :
    List (Except ParseError Analysis) :=
  (splitSentences tokens).map fun sentence => analyzer.analyze sentence options

end Analyzer

end Constituency
