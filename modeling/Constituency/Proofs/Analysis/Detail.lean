import Constituency.Proofs.Analysis.Conservation
import Constituency.Proofs.Tree.Elision

/-!
# Analyses with and without detail

Whether nodes with an only child are kept is decided behind all other steps. So the two forms of an
analysis fail together, and where they succeed, the short tree is the full one with its chains
collapsed, and all that is read off the leaves is the same.
-/
namespace Constituency.Analyzer

variable {analyzer : Analyzer} {tokens : List Token} {parsed : Tree}

/-- The short form of a tree is the full one with its chains collapsed. -/
theorem tree_analysisOf_short : (analyzer.analysisOf tokens false parsed).tree =
    (analyzer.analysisOf tokens true parsed).tree.elide :=
  Tree.recomputeSpans_elide _

/--
An analysis in the short form and one in full detail fail with the same error, or both succeed. Then
tokens, citations and glossary are the same, the short tree is the full one with its chains
collapsed, spans included, and each of the short phrases is the full one with some labels left out.
-/
theorem analyze_short_full (analyzer : Analyzer) (tokens : List Token) (parse : ParseOptions) :
    let short := analyzer.analyze tokens { fullDetail := false, parse }
    let full := analyzer.analyze tokens { fullDetail := true, parse }
    (∃ error, short = .error error ∧ full = .error error) ∨
    ∃ brief whole, short = .ok brief ∧ full = .ok whole ∧
      brief.tokens = whole.tokens ∧ brief.mapped = whole.mapped ∧
      brief.references = whole.references ∧ brief.glossary = whole.glossary ∧
      brief.tree = whole.tree.elide ∧
      List.Forall₂ FewerLabels brief.phrases whole.phrases := by
  intro short full
  dsimp only [short, full]
  rw [analyze_eq_map, analyze_eq_map]
  cases outcome : analyzer.grammar.parse (analyzer.table.retag tokens) parse with
  | error error => exact .inl ⟨error, rfl, rfl⟩
  | ok parsed =>
    have tree : (analyzer.analysisOf tokens false parsed).tree = _ := tree_analysisOf_short
    refine .inr ⟨_, _, rfl, rfl, rfl, rfl, ?_, rfl, tree, ?_⟩
    · -- Citations are read off the leaves, which collapsing keeps.
      change analyzer.table.references (analyzer.analysisOf tokens false parsed).tree = _
      rw [tree, TagTable.references, Tree.leaves_elide]
      rfl
    · change List.Forall₂ _ ((analyzer.analysisOf tokens false parsed).tree.phrases _) _
      rw [tree]
      exact Tree.fewerLabels_phrases_elide _ _

end Constituency.Analyzer
