import Constituency.Proofs.Analysis.Conservation
import Constituency.Proofs.TagTable.Applications
import Constituency.Proofs.Token.Sentences

/-!
# Texts of several sentences

A text is analyzed sentence by sentence, and no sentence shows anything of the others: the results
of a text that is put together from two are those of the first and then those of the second. All
that is counted begins anew with each sentence: the applications of the rules, the places of the
tokens and the steps of the parser.
-/
namespace Constituency

open Constituency.Text

/-! ### Steps -/

section Steps

variable {grammar : Grammar} {tokens : List Token} {options : ParseOptions} {steps : Nat}

/-- A parse is given up for the steps of its own parser, and tells how many these are. -/
theorem Grammar.parse_eq_error_stepLimit_iff :
    let taken := (Parser.callStart { grammar, tokens, options }).2.run.steps
    grammar.parse tokens options = .error (.stepLimit steps) ↔
      (∃ limit, options.maxSteps = some limit ∧ limit < taken) ∧ steps = taken := by
  have rest : Run.AtRest grammar tokens {} := Run.atRest_fresh
  obtain ⟨answer, after, events, replies⟩ := Parser.exists_replies options .start rest
  have called : Parser.callStart ⟨grammar, tokens, options, {}⟩ =
      (answer, ⟨grammar, tokens, options, after⟩) := replies.call_eq rest
  have accounted : after.Accounted options := replies.spends.accounted Run.accounted_fresh
  have given : after.aborted = true ↔
      ∃ limit, options.maxSteps = some limit ∧ limit < after.steps := by
    rw [accounted]
    exact Run.outOfSteps_iff
  rw [called]
  dsimp only
  rw [← given, ← parse_eq_stepLimit_iff called]
  -- What a run that was given up reports are the steps that it has taken.
  have report {other : Nat} (failed : grammar.parse tokens options = .error (.stepLimit other)) :
      other = after.steps := by
    have gone := (parse_eq_stepLimit_iff called).mp ⟨other, failed⟩
    have equal := error_of_parse_eq_error called failed
    rw [Run.error, if_pos gone] at equal
    exact ParseError.stepLimit.inj equal
  constructor
  · intro failed
    exact ⟨⟨steps, failed⟩, report failed⟩
  · rintro ⟨⟨other, failed⟩, rfl⟩
    exact report failed ▸ failed

end Steps

/-! ### Sentences -/

namespace Analyzer

variable {analyzer : Analyzer} {options : AnalyzeOptions}

theorem analyze_eq_error_iff {tokens : List Token} {error : ParseError} :
    analyzer.analyze tokens options = .error error ↔
      analyzer.grammar.parse (analyzer.table.retag tokens) options.parse = .error error := by
  rw [analyze_eq_map]
  cases analyzer.grammar.parse (analyzer.table.retag tokens) options.parse <;> simp [Except.map]

/-- Whether all that is counted for the result of a sentence begins with that sentence. -/
structure BeginsAnew (analyzer : Analyzer) (options : AnalyzeOptions) (sentence : List Token)
    (result : Except ParseError Analysis) : Prop where
  /-- The windows of a log of this sentence are replaced, and nothing else is changed. -/
  replaced : (analyzer.table.log sentence).foldlM
    (fun tokens application => application.replay? tokens) sentence =
      some (analyzer.table.retag sentence)
  /-- In this log the applications under each number are counted from one on. -/
  occurrences : ∀ ordinal place application,
    ((analyzer.table.log sentence).filter (·.rule.ordinal == some ordinal))[place]? =
        some application →
      application.minted? =
        some (SyntheticTag.display ⟨application.rule.base, ordinal, place + 1⟩)
  /-- The leaves of the tree are at the places that their tokens have in the sentence. -/
  spans : ∀ analysis, result = .ok analysis →
    let kept := withoutSentenceEnd (analyzer.table.retag sentence)
    analysis.mapped = analyzer.table.retag sentence ∧
      analysis.tree.leaves = leavesBetween kept 0 kept.length
  /-- The steps that are bounded, and reported, are those of a parser of this sentence. -/
  steps : ∀ steps,
    let parser : Parser := {
      grammar := analyzer.grammar
      tokens := analyzer.table.retag sentence
      options := options.parse }
    let taken := parser.callStart.2.run.steps
    result = .error (.stepLimit steps) ↔
      (∃ limit, options.parse.maxSteps = some limit ∧ limit < taken) ∧ steps = taken

theorem beginsAnew_analyze (analyzer : Analyzer) (options : AnalyzeOptions)
    (sentence : List Token) :
    analyzer.BeginsAnew options sentence (analyzer.analyze sentence options) where
  replaced := analyzer.table.replay_log sentence
  occurrences := fun _ _ _ => TagTable.minted?_of_getElem?_filter_log
  spans := by
    intro analysis done
    obtain ⟨parsed, parse, rfl⟩ := analyze_eq_ok_iff.mp done
    exact ⟨rfl, leaves_tree_of_parse parse options.fullDetail⟩
  steps := fun _ => analyze_eq_error_iff.trans Grammar.parse_eq_error_stepLimit_iff

theorem analyzeText_append {front : List Token} (closed : front = [] ∨ EndsSentence front)
    (back : List Token) : analyzer.analyzeText (front ++ back) options =
      analyzer.analyzeText front options ++ analyzer.analyzeText back options := by
  rw [analyzeText, splitSentences_append closed, List.map_append]
  rfl

/-- A sentence by itself is a text with one result. -/
theorem analyzeText_of_inner {sentence : List Token}
    (some : sentence ≠ []) (inner : ∀ token ∈ sentence.dropLast, token.isSentenceFinal = false) :
    analyzer.analyzeText sentence options = [analyzer.analyze sentence options] := by
  rw [analyzeText, splitSentences_eq_singleton some inner]
  rfl

/--
Sentences are analyzed on their own. A text falls into its sentences in just one way: they give the
text back, none is empty, a sentence-final token stands at most at the end of one, and each but the
last one ends with one. A text in two parts, the first of which is empty or ends with a
sentence-final token, has the results of the one and then those of the other. And the result of each
sentence is the one that it has as a text by itself, with all that is counted beginning anew: the
applications of the rules, the places of the tokens and the steps.
-/
theorem analyzeText_sentencewise (analyzer : Analyzer) (options : AnalyzeOptions) :
    (∀ tokens sentences, IsCutInto tokens sentences ↔ sentences = splitSentences tokens) ∧
    (∀ front back, front = [] ∨ EndsSentence front →
      analyzer.analyzeText (front ++ back) options =
        analyzer.analyzeText front options ++ analyzer.analyzeText back options) ∧
    ∀ tokens,
      (analyzer.analyzeText tokens options).length = (splitSentences tokens).length ∧
      ∀ (place : Nat) (sentence : List Token), (splitSentences tokens)[place]? = some sentence →
        ∃ result, (analyzer.analyzeText tokens options)[place]? = some result ∧
          analyzer.analyzeText sentence options = [result] ∧
          analyzer.BeginsAnew options sentence result := by
  refine ⟨fun tokens sentences => isCutInto_iff,
    fun front back closed => analyzeText_append closed back,
    fun tokens => ⟨List.length_map _, fun place sentence there => ?_⟩⟩
  have member := List.mem_of_getElem? there
  have cut := isCutInto_splitSentences tokens
  refine ⟨analyzer.analyze sentence options, ?_, ?_, beginsAnew_analyze analyzer options sentence⟩
  · rw [analyzeText, List.getElem?_map, there]
    rfl
  · exact analyzeText_of_inner (cut.ne_nil sentence member) (cut.inner sentence member)

/-- Two meals, one behind the other: the verb of each is the first one that its rule has made. -/
theorem analyzeText_sentencewise_meals :
    EndsSentence mealTokens ∧
    meals.analyzeText (mealTokens ++ mealTokens) { fullDetail := true } =
      [.ok mealAnalysis, .ok mealAnalysis] := by
  have ended : EndsSentence mealTokens := ⟨⟨".", "SF"⟩, rfl, rfl⟩
  have alone : meals.analyzeText mealTokens { fullDetail := true } = [.ok mealAnalysis] := by
    decide +kernel
  have both := (analyzeText_sentencewise meals { fullDetail := true }).2.1 mealTokens mealTokens
    (.inr ended)
  rw [alone] at both
  exact ⟨ended, both⟩

end Analyzer

end Constituency
