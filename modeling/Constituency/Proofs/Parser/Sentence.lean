import Constituency.Proofs.Parser.Diagnosis

/-!
# Trees of whole sentences

A parse that succeeds gives what the start production has matched from the first token to the last
one: a derivation of the grammar that covers the sentence.
-/
namespace Constituency.Grammar

variable {grammar : Grammar} {tokens : List Token} {options : ParseOptions} {tree : Tree}

/-- The parser has replied with the tree, and the cursor stands at the end. -/
theorem exists_replies_of_parse (parsed : grammar.parse tokens options = .ok tree) :
    ∃ after events, after.position = tokens.length ∧
      Parser.Replies ⟨grammar, tokens, options, {}⟩ .start (some tree) after events := by
  have rest : Run.AtRest grammar tokens {} := Run.atRest_fresh
  obtain ⟨answer, after, events, replies⟩ := Parser.exists_replies options .start rest
  have called : Parser.callStart ⟨grammar, tokens, options, {}⟩ =
      (answer, ⟨grammar, tokens, options, after⟩) := replies.call_eq rest
  obtain ⟨rfl, -, all⟩ := (parse_eq_ok_iff called).mp parsed
  exact ⟨after, events, Nat.le_antisymm (replies.atRest rest).placed.position_le all, replies⟩

theorem covers_of_parse (parsed : grammar.parse tokens options = .ok tree) :
    tree.Covers tokens 0 tokens.length := by
  obtain ⟨after, events, whole, replies⟩ := exists_replies_of_parse parsed
  exact whole ▸ replies.covers Run.atRest_fresh

theorem derived_of_parse (parsed : grammar.parse tokens options = .ok tree) :
    tree.Derived grammar ∧ tree.label? = some grammar.startRule.name := by
  obtain ⟨after, events, -, replies⟩ := exists_replies_of_parse parsed
  exact replies.derives Run.derived_fresh

/-- The root of a parse tree is a branch of the start production. -/
theorem exists_branch_of_parse (parsed : grammar.parse tokens options = .ok tree) :
    ∃ span children, tree = .branch grammar.startRule.name span children := by
  obtain ⟨-, label⟩ := derived_of_parse parsed
  cases tree with
  | leaf token span => contradiction
  | branch name span children =>
    obtain rfl : name = grammar.startRule.name := Option.some.inj label
    exact ⟨span, children, rfl⟩

end Constituency.Grammar
