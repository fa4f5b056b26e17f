import Constituency.Grammar.Equality
import Constituency.Proofs.Analysis.Punctuation
import Constituency.Proofs.Korean.Renames

/-!
# Korean sentences with and without a mark

The Korean grammar has a place for a mark at the end of a sentence, behind the main clause. No other
production accepts the tag of the mark, and no Korean rule looks for it or writes it, so a sentence
is analyzed with its mark just as it is without one.
-/
namespace Constituency.Korean

/-- What a Korean sentence consists of, in front of the mark. -/
def sentenceFront : List (Expr Ref) :=
  [.star (.ref ⟨"SubordinateClause", 1⟩), .ref ⟨"MainClause", 3⟩]

def sentenceEnd : Ref := ⟨"SentenceEnd", 39⟩

/-- What the grammar has to do with the mark, computed from its productions. -/
theorem grammar_endsInMark : grammar.EndsInMark sentenceFront sentenceEnd sentenceFinalTag := by
  have computed : grammar.startRule.body = .seq (sentenceFront ++ [.opt (.ref sentenceEnd)]) ∧
      sentenceEnd.id ≠ grammar.start ∧
      (grammar.rules[sentenceEnd.id]?).any (Rule.standsFor sentenceFinalTag) = true ∧
      (∀ item ∈ sentenceFront, item.Ignores [grammar.start, sentenceEnd.id] sentenceFinalTag) ∧
      ∀ entry ∈ grammar.rules.zipIdx, entry.2 ∉ [grammar.start, sentenceEnd.id] →
        entry.1.body.Ignores [grammar.start, sentenceEnd.id] sentenceFinalTag := by
    decide +kernel
  obtain ⟨body, apart, stands, items, others⟩ := computed
  exact ⟨body, rfl, apart, stands, items, others⟩

/-- What the tag rules have to do with the mark, computed from their texts. -/
theorem tagRules_passOver :
    ∀ rule ∈ tagRules, rule.passesOver windowTags sentenceFinalTag = true := by
  decide +kernel

/--
A mark changes nothing in the analysis of a Korean sentence that does not end in one, unless steps
are counted. With the mark behind it the sentence has an analysis if and only if it has one without,
and then both show the same tree, the same citations and the same phrases.
-/
theorem analyze_sentenceFinal (next : Nat) {tokens : List Token} (word : String)
    (options : AnalyzeOptions) (other : ∀ last ∈ tokens.getLast?, last.tag ≠ "SF")
    (unlimited : options.parse.maxSteps = none) :
    ((∃ marked, (analyzer next).analyze (tokens ++ [⟨word, "SF"⟩]) options = .ok marked) ↔
      ∃ plain, (analyzer next).analyze tokens options = .ok plain) ∧
    ∀ marked plain, (analyzer next).analyze (tokens ++ [⟨word, "SF"⟩]) options = .ok marked →
      (analyzer next).analyze tokens options = .ok plain →
      marked.tree = plain.tree ∧ marked.references = plain.references ∧
        marked.phrases = plain.phrases := by
  have passes : ∀ rule ∈ TagTable.rulesOf entries,
      rule.passesOver windowTags sentenceFinalTag = true :=
    fun rule member => tagRules_passOver _ (mem_tagRules member).1
  have retagged : (tagTable next).1.retag (tokens ++ [⟨word, "SF"⟩]) =
      (tagTable next).1.retag tokens ++ [⟨word, "SF"⟩] :=
    TagTable.retag_append_of_passesOver entries_fresh passes (by decide) rfl
  have last : ∀ last ∈ ((tagTable next).1.retag tokens).getLast?, last.tag ≠ sentenceFinalTag :=
    TagTable.getLast?_retag_of_passesOver entries_fresh passes (by decide) (by decide) other
  exact Analyzer.analyze_append grammar_endsInMark rfl retagged last unlimited

/-- A phrase is renamed as without the mark, though the word of the mark reads like its window. -/
theorem analyze_sentenceFinal_before :
    (∀ last ∈ beforeTokens.getLast?, last.tag ≠ "SF") ∧
    (analyzer 1).analyze beforeTokens {} = .ok beforeAnalysis ∧
    ∃ marked, (analyzer 1).analyze (beforeTokens ++ [⟨"전:NNG;에:JKB", "SF"⟩]) {} = .ok marked ∧
      marked.tree = beforeAnalysis.tree ∧ marked.references = beforeAnalysis.references ∧
      marked.phrases = beforeAnalysis.phrases := by
  have other : ∀ last ∈ beforeTokens.getLast?, last.tag ≠ "SF" := by simp [beforeTokens]
  obtain ⟨done, -⟩ := analyze_before
  obtain ⟨alike, same⟩ := analyze_sentenceFinal 1 "전:NNG;에:JKB" {} other rfl
  obtain ⟨marked, markedDone⟩ := alike.mpr ⟨beforeAnalysis, done⟩
  exact ⟨other, done, marked, markedDone, same marked beforeAnalysis markedDone done⟩

end Constituency.Korean
