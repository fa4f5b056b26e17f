import Constituency.Korean.Tags
import Constituency.Proofs.TagTable.Closed

/-!
# Korean sentences are settled at once

The Korean rules look for tags of the Sejong set and write synthetic tags, or `CON`, which none of
them looks for.
-/
namespace Constituency.Korean

/-- The tags that the Korean rules look for. -/
def windowTags : List (List Char) :=
  ["XSN", "TM", "ETN", "NNG", "ETM", "NNB", "JX", "MAG", "VCP", "VA", "EC", "JKB", "VV"].map
    String.toList

theorem isClosed_of_mem_tagRules : ∀ rule ∈ tagRules, rule.isClosed windowTags = true := by
  decide +kernel

/-- The rules of the Korean table are the Korean rules, none of which was registered before. -/
theorem mem_tagRules {rule : NumberedRule} (member : rule ∈ TagTable.rulesOf entries) :
    rule.toTagRule ∈ tagRules ∧ rule.ordinal = none := by
  have own : TagTable.rulesOf entries = tagRules.map fun rule => { rule with } := by
    simp [TagTable.rulesOf, entries, links, sejongTags, syntheticTags, List.filterMap_map]
  rw [own] at member
  obtain ⟨listed, inside, rfl⟩ := List.mem_map.mp member
  exact ⟨inside, rfl⟩

theorem mem_tagRules_of_mem_tagTable {next : Nat} {rule : NumberedRule}
    (member : rule ∈ (tagTable next).1.rules) : rule.toTagRule ∈ tagRules := by
  rw [tagTable] at member
  exact TagTable.forall_mem_rules_build (P := (· ∈ tagRules)) (fun _ own => (mem_tagRules own).1)
    rule member

theorem entries_fresh : ∀ rule ∈ TagTable.rulesOf entries, rule.bringsNumber = false := by
  intro rule member
  simp [NumberedRule.bringsNumber, (mem_tagRules member).2]

/-- Retagging a sentence with the Korean table changes nothing the second time. -/
theorem retag_retag (next : Nat) (tokens : List Token) :
    (tagTable next).1.retag ((tagTable next).1.retag tokens) = (tagTable next).1.retag tokens := by
  have closed : ∀ rule ∈ TagTable.rulesOf entries, rule.isClosed windowTags = true :=
    fun rule member => isClosed_of_mem_tagRules _ (mem_tagRules member).1
  have signless : ∀ name ∈ windowTags, '#' ∉ name := by decide
  exact TagTable.retag_retag_of_isClosed entries_fresh closed signless next tokens

end Constituency.Korean
