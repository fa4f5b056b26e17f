import Constituency.Proofs.Analysis.Renumbering
import Constituency.Proofs.Korean.Renames

/-!
# Korean analyses do not depend on the counter

The Korean table takes its numbers from a counter that other tables have moved before. What it says
about a sentence is the same from each value of the counter on, but for the numbers in the synthetic
tags: no Korean rule looks at a synthetic tag, and each pattern of the Korean grammar either refuses
all synthetic tags with a base or accepts them all.
-/
namespace Constituency.Korean

/-- The base tags of the Korean rules. -/
def ruleBases : List String := ["PLU", "GNOM", "TOP", "CON", "FUT", "MAG", "PRP"]

/-- What the tag rules write, computed from their texts. -/
theorem tagRules_write :
    ∀ rule ∈ tagRules, rule.writesOneToken = true ∧ rule.base ∈ ruleBases := by
  decide +kernel

/-- What the patterns of the grammar have to do with numbers, computed from their trees. -/
theorem grammar_ignoresNumbers : ∀ rule ∈ grammar.rules, ∀ pattern ∈ rule.body.terminals,
    ∀ base ∈ ruleBases, pattern.ignoresNumbers base = true := by
  decide +kernel

/--
Whatever the counter is when the Korean table is built, a sentence without synthetic tags is analyzed
alike: there are two analyses or two errors, and the second one is the first one with the numbers of
the second table. The numbers of both tables have to be words of the machine, and so has the length
of the sentence, as each application is counted.
-/
theorem analyze_eq_renumber {first second : Nat} {tokens : List Token} (options : AnalyzeOptions)
    (fits : (tagTable first).2 ≤ Text.maxWord + 1)
    (otherFits : (tagTable second).2 ≤ Text.maxWord + 1) (few : tokens.length ≤ Text.maxWord)
    (plain : ∀ token ∈ tokens, SyntheticTag.read token.tag = none) :
    (analyzer second).analyze tokens options =
      (((analyzer first).analyze tokens options).map
        (Analysis.renumber (renumbering first second))).mapError
          (ParseError.mapTokens (Token.renumber (renumbering first second))) := by
  have closed : ∀ rule ∈ TagTable.rulesOf entries, rule.isClosed windowTags = true :=
    fun rule member => isClosed_of_mem_tagRules _ (mem_tagRules member).1
  have one : ∀ rule ∈ TagTable.rulesOf entries, rule.writesOneToken = true :=
    fun rule member => (tagRules_write _ (mem_tagRules member).1).1
  have accounted : ∀ rule ∈ TagTable.rulesOf entries, rule.isAccounted = true :=
    fun rule member => (tagRules_fit _ (mem_tagRules member).1).1
  have blind : ∀ rule ∈ (tagTable first).1.rules,
      rule.IsBlindIn windowTags (tagTable first).1 :=
    NumberedRule.isBlindIn_of_mem_build entries_fresh closed one accounted
  have ignores : ∀ rule ∈ grammar.rules, ∀ pattern ∈ rule.body.terminals,
      ∀ numbered ∈ (tagTable first).1.rules, pattern.ignoresNumbers numbered.base = true := by
    intro rule member pattern stands numbered inside
    have own := mem_tagRules_of_mem_tagTable inside
    exact grammar_ignoresNumbers rule member pattern stands _ (tagRules_write _ own).2
  have signless : ∀ name ∈ windowTags, '#' ∉ name := by decide
  have renumbers := TagTable.renumbers_build entries_fresh fits otherFits
  exact Analyzer.analyze_renumber renumbers signless blind ignores few plain

/-- The table that is built next begins with number ten, and its suffix belongs to rule sixteen. -/
theorem analyze_eq_renumber_before :
    (tagTable 1).2 ≤ Text.maxWord + 1 ∧ (tagTable 10).2 ≤ Text.maxWord + 1 ∧
    beforeTokens.length ≤ Text.maxWord ∧
    (∀ token ∈ beforeTokens, SyntheticTag.read token.tag = none) ∧
    (analyzer 1).analyze beforeTokens {} = .ok beforeAnalysis ∧
    (analyzer 10).analyze beforeTokens {} = .ok (beforeAnalysis.renumber (renumbering 1 10)) ∧
    (beforeAnalysis.renumber (renumbering 1 10)).mapped =
      [⟨"밥", "NNG"⟩, ⟨"전에", "PRP#16.1"⟩, ⟨"먹", "VV"⟩, ⟨"다", "EF"⟩] := by
  have small : (tagTable 1).2 ≤ Text.maxWord + 1 ∧ (tagTable 10).2 ≤ Text.maxWord + 1 := by
    decide +kernel
  have few : beforeTokens.length ≤ Text.maxWord := by decide +kernel
  have plain : ∀ token ∈ beforeTokens, SyntheticTag.read token.tag = none := by decide +kernel
  have renumbered := analyze_eq_renumber {} small.1 small.2 few plain
  rw [analyze_before.1] at renumbered
  exact ⟨small.1, small.2, few, plain, analyze_before.1, renumbered, by decide +kernel⟩

end Constituency.Korean
