import Constituency.Proofs.Analysis.Citations
import Constituency.Proofs.Parser.FinalMark
import Constituency.Proofs.TagTable.Ending
import Constituency.Proofs.Tree.Renaming

/-!
# Analyses of sentences with a mark

A mark behind a sentence goes through all stages without leaving a trace in the tree: no tag rule
replaces a window with it, only the last production takes it, and the normal form drops it with the
branch that it leaves empty. What is left differs in the span of the root alone, which is computed
anew.
-/
namespace Constituency

namespace Tree

variable {flatten : LabelSet} {table : TagTable} {fullDetail : Bool}

/-! ### The span of the root -/

theorem coverOr_of_ne_nil {span other : Span} {nodes : List Tree} (some : nodes ≠ []) :
    coverOr span nodes = coverOr other nodes := by
  obtain ⟨first, rest, rfl⟩ := List.exists_cons_of_ne_nil some
  have last := List.getLast?_eq_some_getLast some
  rw [coverOr, coverOr, last]
  rfl

/-- The steps in front of the last one do not look at the span of the root. -/
theorem exists_unspanned (label : String) (nodes : List Tree) (flatten : LabelSet)
    (table : TagTable) (fullDetail : Bool) : ∃ title shown, ∀ span,
      (Tree.branch label span nodes).unspanned flatten table fullDetail =
        .branch title span shown := by
  cases fullDetail with
  | false => exact ⟨_, _, fun span => rfl⟩
  | true => exact ⟨_, _, fun span => rfl⟩

/-- Nodes that are dropped at the end leave no trace in the normal form. -/
theorem normalize_append {tree last : Tree} (filled : tree.Filled)
    (inner : ∀ leaf ∈ tree.leaves.getLast?, leaf.1.isSentenceFinal = false)
    (dropped : last.withoutFinal = none) :
    (tree.append last).normalize flatten table fullDetail =
      tree.normalize flatten table fullDetail := by
  cases tree with
  | leaf token span => rfl
  | branch label span nodes =>
    obtain ⟨some, below⟩ := filled_branch.mp filled
    obtain ⟨leaf, final⟩ := Option.ne_none_iff_exists'.mp
      (mt List.getLast?_eq_none_iff.mp filled.leaves_ne_nil)
    have kept : withoutFinalAll nodes = nodes := by
      refine withoutFinalAll_of_inner below (fun child member ends => ?_)
        (leaves_branch label span nodes ▸ final)
      exact withoutFinal_of_inner (below child member) ends (inner leaf final)
    have gone : withoutFinalAll (nodes ++ [last]) = withoutFinalAll nodes := by
      rw [withoutFinalAll_append, dropped, kept]
      simp
    have same (whole : Span) :
        (Tree.branch label whole (nodes ++ [last])).unspanned flatten table fullDetail =
          (Tree.branch label whole nodes).unspanned flatten table fullDetail := by
      rw [unspanned, dropSentenceEnd, gone]
      rfl
    obtain ⟨title, shown, shape⟩ := exists_unspanned label nodes flatten table fullDetail
    -- The leaves are still there, so the root has children to take its span from.
    have left : shown ≠ [] := by
      rintro rfl
      have leaves : ((Tree.branch label span nodes).unspanned flatten table fullDetail).leaves =
          dropFinal isFinalLeaf (Tree.branch label span nodes).leaves :=
        leaves_unspanned filled.below
      rw [shape, dropFinal, final, Option.any_some, isFinalLeaf, inner leaf final] at leaves
      exact filled.leaves_ne_nil leaves.symm
    rw [normalize_eq, Tree.append, same, shape, recomputeSpans_branch, normalize_eq, shape,
      recomputeSpans_branch, coverOr_of_ne_nil]
    simpa using left

theorem withoutFinal_markTree {name : String} {position : Nat} {mark : Token}
    (final : mark.isSentenceFinal = true) : (markTree name position mark).withoutFinal = none := by
  simp [markTree, withoutFinal, withoutFinalAll, final]

end Tree

/-- The last leaf of a tree that covers a sentence is the last token. -/
theorem Tree.Covers.last_mem {tree : Tree} {tokens : List Token} {leaf : Token × Span}
    (covers : tree.Covers tokens 0 tokens.length) (last : leaf ∈ tree.leaves.getLast?) :
    leaf.1 ∈ tokens.getLast? := by
  rw [← covers.map_fst_leaves, List.getLast?_map]
  exact Option.mem_map_of_mem Prod.fst last

namespace Analyzer

variable {analyzer : Analyzer} {tokens : List Token} {options : AnalyzeOptions} {mark : Token}
  {front : List (Expr Ref)} {final : Ref}

/-- The mark leaves no trace in the tree. -/
theorem tree_append {parsed : Tree} (tagged : mark.tag = sentenceFinalTag)
    (other : ∀ last ∈ (analyzer.table.retag tokens).getLast?, last.tag ≠ sentenceFinalTag)
    (parse : analyzer.grammar.parse (analyzer.table.retag tokens) options.parse = .ok parsed)
    (name : String) (position : Nat) :
    (analyzer.analysisOf (tokens ++ [mark]) options.fullDetail
      (parsed.append (markTree name position mark))).tree =
      (analyzer.analysisOf tokens options.fullDetail parsed).tree := by
  have covers := Grammar.covers_of_parse parse
  apply Tree.normalize_append covers.filled
  · intro leaf last
    have different := other leaf.1 (covers.last_mem last)
    simpa [Token.isSentenceFinal] using different
  · apply Tree.withoutFinal_markTree
    simpa [Token.isSentenceFinal] using tagged

section Marked

variable (ends : analyzer.grammar.EndsInMark front final sentenceFinalTag)
  (tagged : mark.tag = sentenceFinalTag)
  (retagged : analyzer.table.retag (tokens ++ [mark]) = analyzer.table.retag tokens ++ [mark])
  (other : ∀ last ∈ (analyzer.table.retag tokens).getLast?, last.tag ≠ sentenceFinalTag)
  (unlimited : options.parse.maxSteps = none)
include ends tagged retagged other unlimited

/-- A sentence has an analysis with a mark behind it for each tree that it has without one. -/
theorem analyze_append_eq_ok_iff {marked : Analysis} :
    analyzer.analyze (tokens ++ [mark]) options = .ok marked ↔
      ∃ parsed, analyzer.grammar.parse (analyzer.table.retag tokens) options.parse = .ok parsed ∧
        analyzer.analysisOf (tokens ++ [mark]) options.fullDetail (parsed.append
          (markTree final.name (analyzer.table.retag tokens).length mark)) = marked := by
  simp only [analyze_eq_ok_iff, retagged, Grammar.parse_eq_ok_iff_forgetful unlimited,
    ends.parse_append_iff tagged other]
  constructor
  · rintro ⟨_, ⟨parsed, parse, rfl⟩, shown⟩
    exact ⟨parsed, parse, shown⟩
  · rintro ⟨parsed, parse, shown⟩
    exact ⟨_, ⟨parsed, parse, rfl⟩, shown⟩

/-- Whether there is an analysis, and what it shows of the tree, does not depend on a mark. -/
theorem analyze_append :
    ((∃ marked, analyzer.analyze (tokens ++ [mark]) options = .ok marked) ↔
      ∃ plain, analyzer.analyze tokens options = .ok plain) ∧
    ∀ marked plain, analyzer.analyze (tokens ++ [mark]) options = .ok marked →
      analyzer.analyze tokens options = .ok plain →
      marked.tree = plain.tree ∧ marked.references = plain.references ∧
        marked.phrases = plain.phrases := by
  have withMark := @analyze_append_eq_ok_iff analyzer tokens options mark front final ends tagged
    retagged other unlimited
  constructor
  · constructor
    · rintro ⟨marked, done⟩
      obtain ⟨parsed, parse, -⟩ := withMark.mp done
      exact ⟨_, analyze_eq_ok_iff.mpr ⟨parsed, parse, rfl⟩⟩
    · rintro ⟨plain, done⟩
      obtain ⟨parsed, parse, -⟩ := analyze_eq_ok_iff.mp done
      exact ⟨_, withMark.mpr ⟨parsed, parse, rfl⟩⟩
  · intro marked plain done plainDone
    obtain ⟨parsed, parse, rfl⟩ := withMark.mp done
    obtain ⟨again, plainParse, rfl⟩ := analyze_eq_ok_iff.mp plainDone
    obtain rfl : parsed = again := Except.ok.inj (parse.symm.trans plainParse)
    -- Citations and phrases are read off the tree.
    have tree := tree_append tagged other parse final.name (analyzer.table.retag tokens).length
    exact ⟨tree, congrArg analyzer.table.references tree,
      congrArg (Tree.phrases analyzer.grammar.hidden) tree⟩

end Marked

end Analyzer

end Constituency
