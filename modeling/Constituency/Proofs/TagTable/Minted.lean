import Constituency.Proofs.TagTable.Closed

/-!
# Tags that lead to a rule

A number sign tells synthetic tags from others. In a sentence whose tags bear none, those that a
table leaves behind come from its rules: each of them was minted by the rule to which its number
leads. So what is asked for a token, such as a rename, tells the base of its tag as well.
-/
namespace Constituency

/-! ### What retagging keeps true of all tokens -/

section Everywhere

variable {P : Token → Prop}

theorem NumberedRule.forall_mem_passFrom {rule : NumberedRule} {done : Nat} {tokens : List Token}
    (writes : ∀ {window replacement occurrence}, rule.replace? window = some replacement →
      ∀ token ∈ rule.mint occurrence replacement, P token)
    (all : ∀ token ∈ tokens, P token) : ∀ token ∈ rule.passFrom done tokens, P token := by
  -- One case for each way the pass goes on: no window is left, one is rewritten, one token stays.
  fun_induction rule.passFrom done tokens with
  | case1 => exact all
  | case2 done tokens long _ replacement found ih =>
    have behind := ih fun token member => all token (List.mem_of_mem_drop member)
    exact List.forall_mem_append.mpr ⟨writes found, behind⟩
  | case3 done tokens long _ missing ih =>
    have behind := ih fun token member => all token (List.mem_of_mem_drop member)
    exact List.forall_mem_append.mpr
      ⟨fun token member => all token (List.mem_of_mem_take member), behind⟩

/-- What is true of all tokens of a sentence, and of all that the rules write, stays true. -/
theorem TagTable.forall_mem_retag {table : TagTable} {tokens : List Token}
    (writes : ∀ rule ∈ table.rules, ∀ {window replacement occurrence},
      rule.replace? window = some replacement →
        ∀ token ∈ rule.mint occurrence replacement, P token)
    (all : ∀ token ∈ tokens, P token) : ∀ token ∈ table.retag tokens, P token := by
  apply retag_induction (P := fun tokens => ∀ token ∈ tokens, P token) _ all
  intro rule member done _ before
  exact NumberedRule.forall_mem_passFrom (writes rule member) before

end Everywhere

/-! ### Where tags come from -/

/-- Whether a tag bears no number sign, or is one that is minted by the rule of its number. -/
def TagTable.Accounts (table : TagTable) (tag : String) : Prop :=
  '#' ∉ tag.toList ∨ ∃ rule ordinal occurrence, table.ruleByOrdinal ordinal = some rule ∧
    tag = SyntheticTag.display ⟨rule.base, ordinal, occurrence⟩

/--
Whether a rule writes no number sign of its own: one token, which gets a synthetic tag, if the rule
is numbered, and otherwise fixed tokens whose tags are plain.
-/
def TagRule.isAccounted (rule : TagRule) : Bool :=
  if rule.isNumbered then rule.writesOneToken
  else !rule.replacement.toList.contains '$' &&
    match readTokens rule.replacement with
    | .ok tokens => tokens.all fun token => !token.tag.toList.contains '#'
    | .error _ => true

theorem TagRule.signless_of_replace? {rule : TagRule} {window : String}
    {replacement : List Token} (accounted : rule.isAccounted = true)
    (uncounted : rule.isNumbered = false) (found : rule.replace? window = some replacement) :
    ∀ token ∈ replacement, '#' ∉ token.tag.toList := by
  simp only [isAccounted, uncounted, Bool.false_eq_true, if_false, Bool.and_eq_true,
    Bool.not_eq_true'] at accounted
  obtain ⟨plain, signless⟩ := accounted
  rw [readTokens_of_replace? (by simpa using plain) found] at signless
  simpa using signless

theorem SyntheticTag.read_of_signless {tag : String} (signless : '#' ∉ tag.toList) :
    read tag = none := by
  rw [read, Text.splitLast_eq_none.mpr signless]
  rfl

namespace TagTable

variable {table : TagTable} {entries : List TagEntry} {next : Nat} {tokens : List Token}

/-- Retagging tells of each number sign which rule it comes from. -/
theorem accounts_of_mem_retag
    (fresh : ∀ rule ∈ rulesOf entries, rule.bringsNumber = false)
    (accounted : ∀ rule ∈ rulesOf entries, rule.isAccounted = true)
    (signless : ∀ token ∈ tokens, '#' ∉ token.tag.toList) :
    ∀ token ∈ (build entries next).1.retag tokens, (build entries next).1.Accounts token.tag := by
  refine forall_mem_retag (fun rule member => ?_) fun token inside => .inl (signless token inside)
  have own := forall_mem_rules_build (P := fun rule => rule.isAccounted = true) accounted rule
    member
  have numbered := isSome_ordinal_of_mem_build fresh member
  intro window replacement occurrence found token written
  -- Only rules with a number write synthetic tags.
  cases ordinal : rule.ordinal with
  | some number =>
    have counts : rule.isNumbered = true := by simpa [ordinal] using numbered.symm
    have one : rule.writesOneToken = true := by
      simpa [TagRule.isAccounted, counts] using own
    have leads : (build entries next).1.ruleByOrdinal number = some rule :=
      (unshared_build fresh next).ruleByOrdinal_eq_some_iff.mpr ⟨member, ordinal⟩
    exact .inr ⟨rule, number, occurrence, leads,
      NumberedRule.tag_of_mem_mint ordinal one found written⟩
  | none =>
    have uncounted : rule.isNumbered = false := by simpa [ordinal] using numbered.symm
    have same : rule.mint occurrence replacement = replacement := by
      simp [NumberedRule.mint, ordinal]
    exact .inl (TagRule.signless_of_replace? own uncounted found token (same ▸ written))

/-- What is asked for is what some rule of the table asks for. -/
theorem exists_rule_of_renameFor {tag : String} {rename : Rename}
    (found : table.renameFor tag = some rename) :
    ∃ rule ∈ table.rules, rule.rename = some rename := by
  simp only [renameFor, ruleFor, bind, Option.bind_eq_some_iff] at found
  obtain ⟨rule, ⟨synthetic, -, byOrdinal⟩, asked⟩ := found
  exact ⟨rule, (mem_of_ruleByOrdinal byOrdinal).1, asked⟩

/-- What a tag asks for is what the rule asks for that minted it. -/
theorem Accounts.exists_rule {tag : String} {rename : Rename} (accounts : table.Accounts tag)
    (found : table.renameFor tag = some rename) : ∃ rule ∈ table.rules, ∃ ordinal occurrence,
      rule.rename = some rename ∧ tag = SyntheticTag.display ⟨rule.base, ordinal, occurrence⟩ := by
  rcases accounts with signless | ⟨rule, ordinal, occurrence, leads, rfl⟩
  · rw [renameFor, ruleFor, SyntheticTag.read_of_signless signless] at found
    contradiction
  · refine ⟨rule, (mem_of_ruleByOrdinal leads).1, ordinal, occurrence, ?_, rfl⟩
    rw [renameFor, ruleFor_display rule.base_nonempty] at found
    split at found
    · rwa [leads] at found
    · contradiction

end TagTable

end Constituency
