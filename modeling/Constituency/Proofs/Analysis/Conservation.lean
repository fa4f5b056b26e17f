import Constituency.Analyzer
import Constituency.Proofs.Parser.Sentence
import Constituency.Proofs.Tree.Exact

/-!
# What an analysis keeps

However a grammar and a tag table change the tree of a sentence, its leaves stay the retagged tokens
in their order, each at its place, but for a sentence-final token at the end. The branches of the
tree that is shown reach exactly over their leaves, and none below the root is empty.
-/
namespace Constituency

namespace Analyzer

variable {analyzer : Analyzer} {tokens : List Token} {options : AnalyzeOptions}

/-- The analysis that a parse tree of the retagged tokens leads to. -/
def analysisOf (analyzer : Analyzer) (tokens : List Token) (fullDetail : Bool) (parsed : Tree) :
    Analysis :=
  let tree := parsed.normalize analyzer.grammar.flatten analyzer.table fullDetail
  { tokens := tokens
    mapped := analyzer.table.retag tokens
    tree := tree
    references := analyzer.table.references tree
    glossary := analyzer.table.glossaryFor (analyzer.table.retag tokens)
    phrases := tree.phrases analyzer.grammar.hidden }

theorem analyze_eq_map : analyzer.analyze tokens options =
    (analyzer.grammar.parse (analyzer.table.retag tokens) options.parse).map
      (analyzer.analysisOf tokens options.fullDetail) := by
  rw [analyze]
  cases analyzer.grammar.parse (analyzer.table.retag tokens) options.parse <;> rfl

theorem analyze_eq_ok_iff {analysis : Analysis} : analyzer.analyze tokens options = .ok analysis ↔
    ∃ parsed, analyzer.grammar.parse (analyzer.table.retag tokens) options.parse = .ok parsed ∧
      analyzer.analysisOf tokens options.fullDetail parsed = analysis := by
  rw [analyze_eq_map]
  cases analyzer.grammar.parse (analyzer.table.retag tokens) options.parse <;> simp [Except.map]

theorem mapped_eq_retag {analysis : Analysis}
    (done : analyzer.analyze tokens options = .ok analysis) :
    analysis.mapped = analyzer.table.retag tokens := by
  obtain ⟨parsed, -, rfl⟩ := analyze_eq_ok_iff.mp done
  rfl

section Shown

variable {parsed : Tree}
  (parse : analyzer.grammar.parse (analyzer.table.retag tokens) options.parse = .ok parsed)
  (fullDetail : Bool)
include parse

/-- Up to the last step the leaves are the ones of the parse tree, but for a sentence end. -/
theorem leaves_unspanned_of_parse :
    (parsed.unspanned analyzer.grammar.flatten analyzer.table fullDetail).leaves =
      leavesBetween (withoutSentenceEnd (analyzer.table.retag tokens)) 0
        (withoutSentenceEnd (analyzer.table.retag tokens)).length := by
  have covers := Grammar.covers_of_parse parse
  have filled := covers.filled.below
  have leaves := covers.leaves_eq
  obtain ⟨span, children, rfl⟩ := Grammar.exists_branch_of_parse parse
  rw [Tree.leaves_unspanned filled, leaves, dropFinal_leavesBetween]

theorem leaves_tree_of_parse : (analyzer.analysisOf tokens fullDetail parsed).tree.leaves =
    leavesBetween (withoutSentenceEnd (analyzer.table.retag tokens)) 0
      (withoutSentenceEnd (analyzer.table.retag tokens)).length := by
  rw [← leaves_unspanned_of_parse parse fullDetail]
  exact Tree.leaves_recomputeSpans _

theorem filledBelow_unspanned_of_parse :
    (parsed.unspanned analyzer.grammar.flatten analyzer.table fullDetail).FilledBelow :=
  (Grammar.covers_of_parse parse).filled.below.unspanned _ _ _

theorem exact_of_mem_tree {branch : Tree}
    (member : branch ∈ (analyzer.analysisOf tokens fullDetail parsed).tree.branches)
    (some : branch.children ≠ []) : branch.Exact :=
  Tree.exact_of_mem_recomputeSpans (filledBelow_unspanned_of_parse parse fullDetail)
    (leaves_unspanned_of_parse parse fullDetail) member some

end Shown

/--
An analysis tells the tokens it is about and what the tag table makes of them, which is at least one
token. The leaves of its tree are these retagged tokens in order, each with the span of its place,
without the last one exactly if that one is sentence-final. Each branch that has children reaches
from the start of its first leaf to the end of its last one and its children lie side by side, and
no branch below the root is without children.
-/
theorem analysis_exact {analysis : Analysis}
    (done : analyzer.analyze tokens options = .ok analysis) :
    analysis.tokens = tokens ∧ analysis.mapped = analyzer.table.retag tokens ∧
    (∃ front last, analysis.mapped = front ++ [last] ∧
      let kept := if last.isSentenceFinal then front else analysis.mapped
      analysis.tree.leaves = leavesBetween kept 0 kept.length) ∧
    (∀ branch ∈ analysis.tree.branches, branch.children ≠ [] → branch.Exact) ∧
    ∀ child ∈ analysis.tree.children, ∀ branch ∈ child.branches, branch.children ≠ [] := by
  obtain ⟨parsed, parse, rfl⟩ := analyze_eq_ok_iff.mp done
  refine ⟨rfl, rfl, ?_, fun branch => exact_of_mem_tree parse options.fullDetail,
    (filledBelow_unspanned_of_parse parse options.fullDetail).recomputeSpans⟩
  -- A parse tree covers at least one token.
  have some : analyzer.table.retag tokens ≠ [] :=
    List.length_pos_iff.mp (Grammar.covers_of_parse parse).lt.1
  obtain ⟨front, last, shape⟩ := (List.eq_nil_or_concat' _).resolve_left some
  refine ⟨front, last, shape, ?_⟩
  dsimp only
  rw [leaves_tree_of_parse parse, shape, withoutSentenceEnd, dropFinal_concat]
  rw [← shape]
  rfl

/-- Meals: an object with its marker and a verb, which is one token where its ending is known. -/
def meals : Analyzer where
  grammar := (Grammar.of [
    ⟨"Sentence", .seq [.ref "Clause", .opt (.ref "End")]⟩,
    ⟨"Clause", .seq [.ref "Object", .ref "Verb"]⟩,
    ⟨"Object", .seq [.terminal (Pattern.of "NN.*"), .terminal (Pattern.of "JKO.*")]⟩,
    ⟨"Verb", .terminal (Pattern.of "VV.*")⟩,
    ⟨"End", .terminal (Pattern.of "SF.*")⟩]).withFlatten ["Clause"]
  table := (TagTable.build [.rule (TagRule.of "먹:VV;다:EF" "먹다:VV" |>.withLabel "eat"
    |>.withRename ⟨"Verb", "Eating"⟩)] 1).1

def mealTokens : List Token :=
  [⟨"밥", "NNG"⟩, ⟨"을", "JKO"⟩, ⟨"먹", "VV"⟩, ⟨"다", "EF"⟩, ⟨".", "SF"⟩]

def mealMapped : List Token :=
  [⟨"밥", "NNG"⟩, ⟨"을", "JKO"⟩, ⟨"먹다", "VV#1.1"⟩, ⟨".", "SF"⟩]

def mealTree : Tree :=
  .branch "Sentence" ⟨0, 3⟩
    [.branch "Object" ⟨0, 2⟩ [.leaf ⟨"밥", "NNG"⟩ ⟨0, 1⟩, .leaf ⟨"을", "JKO"⟩ ⟨1, 2⟩],
     .branch "Eating" ⟨2, 3⟩ [.leaf ⟨"먹다", "VV#1.1"⟩ ⟨2, 3⟩]]

def mealAnalysis : Analysis where
  tokens := mealTokens
  mapped := mealMapped
  tree := mealTree
  references := []
  glossary := [("VV#1.1", ⟨"eat", ""⟩)]
  phrases := [[.word ⟨"밥", "NNG"⟩, .word ⟨"을", "JKO"⟩, .label "Object"],
    [.word ⟨"먹다", "VV#1.1"⟩, .label "Eating"]]

/-- A meal without its full stop, behind a clause that is spliced out and a verb that is renamed. -/
theorem analysis_exact_meal :
    meals.analyze mealTokens { fullDetail := true } = .ok mealAnalysis ∧
    mealAnalysis.tokens = mealTokens ∧ mealAnalysis.mapped = meals.table.retag mealTokens ∧
    (∃ front last, mealAnalysis.mapped = front ++ [last] ∧
      let kept := if last.isSentenceFinal then front else mealAnalysis.mapped
      mealAnalysis.tree.leaves = leavesBetween kept 0 kept.length) ∧
    (∀ branch ∈ mealAnalysis.tree.branches, branch.children ≠ [] → branch.Exact) ∧
    ∀ child ∈ mealAnalysis.tree.children, ∀ branch ∈ child.branches, branch.children ≠ [] := by
  have done : meals.analyze mealTokens { fullDetail := true } = .ok mealAnalysis := by
    decide +kernel
  exact ⟨done, analysis_exact done⟩

end Analyzer

end Constituency
