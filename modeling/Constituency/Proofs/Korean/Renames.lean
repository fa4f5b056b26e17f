import Constituency.Korean.Grammar
import Constituency.Proofs.Analysis.Renames
import Constituency.Proofs.Korean.Idempotence

/-!
# Korean prepositional phrases get their names

The Korean rules ask for new names of prepositional phrases only, with tags that just the
prepositional suffix accepts. A prepositional phrase ends with its suffix, and neither a noun phrase
nor anything below it holds another one, so each of these tags finds its own phrase.
-/
namespace Constituency.Korean

/-- The labels that prepositional phrases are given. -/
def phraseTitles : List String := ["BeforePhrase", "BecausePhrase", "AboutPhrase"]

/-- Prepositional phrases, with all that can stand in a noun phrase in front of the suffix. -/
def renameSite : RenameSite where
  phrase := "PrepositionalPhrase"
  suffix := "PrepositionalSuffix"
  inside :=
    ["NounPhrase", "CombinedNounPhrase", "Conjunction", "Connector", "Determiner", "Noun",
      "SimpleNoun", "NominalizedVerb", "NominalizingSuffix", "Count", "Number", "Counter",
      "AdjectivalPhrase", "Adjective", "Adverb", "SimpleAdverb", "Verb", "SimpleVerb",
      "DescriptiveVerb", "HadaVerb", "VerbFormingSuffix", "VerbSuffix", "AdjectiveFormingSuffix",
      "Possessive", "PossessiveParticle", "NounModifyingSuffix", "AdverbialParticle",
      "AuxiliaryParticle"]
  titles := phraseTitles
  mark := "PRP#".toList

/-- What the grammar has to do with the site, computed from its productions. -/
theorem grammar_fits : (∀ rule ∈ grammar.rules, renameSite.admits rule = true) ∧
    (∀ name ∈ renameSite.suffix :: renameSite.special, name ∉ renameSite.inside) ∧
    (renameSite.suffix :: renameSite.special).Nodup ∧
    grammar.startRule.name ≠ renameSite.suffix ∧
    grammar.flatten.contains renameSite.phrase = false := by
  decide +kernel

/-- What the tag rules have to do with the site, computed from their texts. -/
theorem tagRules_fit : ∀ rule ∈ tagRules, rule.isAccounted = true ∧
    ∀ rename, rule.rename = some rename → rename.old = renameSite.phrase ∧
      rename.new ∈ renameSite.titles ∧ renameSite.mark <+: rule.base.toList ++ ['#'] := by
  decide +kernel

/-- The Korean grammar with the Korean tag table, numbered from `next` on. -/
def analyzer (next : Nat) : Analyzer := ⟨grammar, (tagTable next).1⟩

theorem serves_renames (next : Nat) :
    renameSite.Serves (analyzer next).grammar (analyzer next).table where
  admitted := grammar_fits.1
  outside := grammar_fits.2.1
  distinct := grammar_fits.2.2.1
  start := grammar_fits.2.2.2.1
  kept := grammar_fits.2.2.2.2
  renames rule member := (tagRules_fit rule.toTagRule (mem_tagRules_of_mem_tagTable member)).2

theorem accounts_of_mem_retag (next : Nat) {tokens : List Token}
    (signless : ∀ token ∈ tokens, '#' ∉ token.tag.toList) :
    ∀ token ∈ (analyzer next).table.retag tokens, (analyzer next).table.Accounts token.tag := by
  have accounted : ∀ rule ∈ TagTable.rulesOf entries, rule.isAccounted = true :=
    fun rule member => (tagRules_fit _ (mem_tagRules member).1).1
  exact TagTable.accounts_of_mem_retag entries_fresh accounted signless

/--
In the analysis of a Korean sentence whose tags bear no number sign every rename takes effect. Each
token whose tag asks for a rename asks for one of a prepositional phrase, and exactly one branch has
the new label and ends with that token. Each branch with one of these labels ends with a token that
asks for this very label, and no request is left unserved.
-/
theorem renames_take_effect {next : Nat} {tokens : List Token} {options : AnalyzeOptions}
    {analysis : Analysis} (signless : ∀ token ∈ tokens, '#' ∉ token.tag.toList)
    (done : (analyzer next).analyze tokens options = .ok analysis) :
    (∀ index token rename, analysis.mapped[index]? = some token →
      (tagTable next).1.renameFor token.tag = some rename →
      rename.old = "PrepositionalPhrase" ∧ analysis.tree.branches.countP
        (fun branch => branch.label? = some rename.new ∧ branch.span.stop = index + 1) = 1) ∧
    (∀ branch ∈ analysis.tree.branches, ∀ label ∈ phraseTitles, branch.label? = some label →
      ∃ index token, analysis.mapped[index]? = some token ∧ branch.span.stop = index + 1 ∧
        branch.leaves.getLast? = some (token, ⟨index, index + 1⟩) ∧
        (tagTable next).1.renameFor token.tag = some ⟨"PrepositionalPhrase", label⟩) ∧
    ∃ parsed, grammar.parse analysis.mapped options.parse = .ok parsed ∧
      ((parsed.dropSentenceEnd.flattenLabels grammar.flatten).serveAll
        (tagTable next).1.renameFor).2 = [] := by
  have serves := serves_renames next
  have accounts : ∀ token ∈ analysis.mapped, (analyzer next).table.Accounts token.tag := by
    rw [Analyzer.mapped_eq_retag done]
    exact accounts_of_mem_retag next signless
  refine ⟨fun index token rename there found => ?_, fun branch member label listed own => ?_,
    (Analyzer.titles_eq_requests serves accounts done).1⟩
  · obtain ⟨old, -⟩ := serves.asked found
    have request : rename = ⟨renameSite.phrase, rename.new⟩ := by rw [← old]
    rw [request] at found
    exact ⟨old, Analyzer.countP_title serves accounts done there found⟩
  · exact Analyzer.exists_token_of_title serves accounts done member own listed

def beforeTokens : List Token :=
  [⟨"밥", "NNG"⟩, ⟨"전", "NNG"⟩, ⟨"에", "JKB"⟩, ⟨"먹", "VV"⟩, ⟨"다", "EF"⟩]

def beforeAnalysis : Analysis where
  tokens := beforeTokens
  mapped := [⟨"밥", "NNG"⟩, ⟨"전에", "PRP#7.1"⟩, ⟨"먹", "VV"⟩, ⟨"다", "EF"⟩]
  tree := .branch "Sentence" ⟨0, 4⟩
    [.branch "BeforePhrase" ⟨0, 2⟩ [.leaf ⟨"밥", "NNG"⟩ ⟨0, 1⟩, .leaf ⟨"전에", "PRP#7.1"⟩ ⟨1, 2⟩],
     .branch "Predicate" ⟨2, 4⟩ [.leaf ⟨"먹", "VV"⟩ ⟨2, 3⟩, .leaf ⟨"다", "EF"⟩ ⟨3, 4⟩]]
  references := [{
    word := "전에"
    tag := "PRP#7.1"
    label := some "before"
    links := ["https://talktomeinkorean.com/lessons/level-3-lesson-10",
      "https://www.howtostudykorean.com/unit1/unit-1-lessons-17-25-2/lesson-24/#242"]
    notes := some "attaches to a noun or nominalized verb to say something happens before it" }]
  glossary := [("EF", ⟨"Final ending", "ends the sentence"⟩), ("NNG", ⟨"Noun", "general noun"⟩),
    ("PRP#7.1", ⟨"before", "ends a prepositional phrase"⟩), ("VV", ⟨"Verb", "action verb"⟩)]
  phrases := [[.word ⟨"밥", "NNG"⟩, .word ⟨"전에", "PRP#7.1"⟩, .label "BeforePhrase"],
    [.word ⟨"먹", "VV"⟩, .word ⟨"다", "EF"⟩, .label "Predicate"]]

/-- What the first table and the grammar make of the sentence. -/
theorem analyze_before : (analyzer 1).analyze beforeTokens {} = .ok beforeAnalysis ∧
    (tagTable 1).1.renameFor "PRP#7.1" = some ⟨"PrepositionalPhrase", "BeforePhrase"⟩ := by
  decide +kernel

/-- Food comes before a prepositional suffix, and so gets into a phrase with the new label. -/
theorem renames_take_effect_before :
    (∀ token ∈ beforeTokens, '#' ∉ token.tag.toList) ∧
    (analyzer 1).analyze beforeTokens {} = .ok beforeAnalysis ∧
    beforeAnalysis.mapped[1]? = some ⟨"전에", "PRP#7.1"⟩ ∧
    (tagTable 1).1.renameFor "PRP#7.1" = some ⟨"PrepositionalPhrase", "BeforePhrase"⟩ ∧
    beforeAnalysis.tree.branches.countP
      (fun branch => branch.label? = some "BeforePhrase" ∧ branch.span.stop = 2) = 1 := by
  have signless : ∀ token ∈ beforeTokens, '#' ∉ token.tag.toList := by decide
  obtain ⟨done, asked⟩ := analyze_before
  obtain ⟨served, -, -⟩ := renames_take_effect signless done
  exact ⟨signless, done, rfl, asked, (served 1 _ _ rfl asked).2⟩

end Constituency.Korean
