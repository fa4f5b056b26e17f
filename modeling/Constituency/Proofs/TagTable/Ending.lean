import Constituency.Proofs.TagTable.Closed

/-!
# The end of a sentence under a table

A token that no rule replaces, in whatever window it stands, can be put at the end of a sentence
before or after retagging. And the last token behind a pass is the last one before it, or was
written by the rule.
-/
namespace Constituency

namespace NumberedRule

/-- The rule replaces no window in which the token stands. -/
def Overlooks (rule : NumberedRule) (token : Token) : Prop :=
  ∀ window replacement, rule.replace? (joinTokens window) = some replacement → token ∉ window

variable {rule : NumberedRule} {mark : Token} {done : Nat} {tokens : List Token}

/-- A window that only the token completes has the token in it. -/
theorem Overlooks.isQuiet_of_short (overlooks : rule.Overlooks mark)
    (short : tokens.length < rule.span) : rule.IsQuiet (tokens ++ [mark]) := by
  intro window inside whole
  have length : (tokens ++ [mark]).length ≤ window.length := by
    rw [List.length_append, List.length_singleton, whole]
    exact short
  obtain rfl := inside.eq_of_length_le length
  apply Option.eq_none_iff_forall_ne_some.mpr
  intro replacement found
  exact overlooks _ replacement found (List.mem_append_right _ (List.mem_singleton_self mark))

theorem Overlooks.passFrom_append (overlooks : rule.Overlooks mark) :
    rule.passFrom done (tokens ++ [mark]) = rule.passFrom done tokens ++ [mark] := by
  fun_induction rule.passFrom done tokens with
  | case1 done tokens short => exact passFrom_of_isQuiet (overlooks.isQuiet_of_short short)
  | case2 done tokens long _ replacement found ih =>
    have enough : rule.span ≤ tokens.length := Nat.le_of_not_lt long
    have longer : ¬ (tokens ++ [mark]).length < rule.span := by
      rw [List.length_append]
      omega
    rw [passFrom, if_neg longer, List.take_append_of_le_length enough,
      List.drop_append_of_le_length enough, found]
    dsimp only
    rw [ih, List.append_assoc]
  | case3 done tokens long positive missing ih =>
    have enough : rule.span ≤ tokens.length := Nat.le_of_not_lt long
    have some : 1 ≤ tokens.length := Nat.le_trans positive enough
    have longer : ¬ (tokens ++ [mark]).length < rule.span := by
      rw [List.length_append]
      omega
    rw [passFrom, if_neg longer, List.take_append_of_le_length enough, missing]
    dsimp only
    rw [List.take_append_of_le_length some, List.drop_append_of_le_length some, ih,
      List.append_assoc]

/-! ### The last token -/

/-- Whether a sentence has a last token, and what is true of it. -/
def EndsIn (P : Token → Prop) (tokens : List Token) : Prop :=
  ∃ front last, tokens = front ++ [last] ∧ P last

section EndsIn

variable {P : Token → Prop}

theorem EndsIn.prepend (ends : EndsIn P tokens) (front : List Token) :
    EndsIn P (front ++ tokens) := by
  obtain ⟨before, last, rfl, holds⟩ := ends
  exact ⟨front ++ before, last, (List.append_assoc ..).symm, holds⟩

/-- What is left of a sentence ends like it, if anything is left. -/
theorem EndsIn.drop (ends : EndsIn P tokens) (count : Nat) :
    tokens.drop count = [] ∨ EndsIn P (tokens.drop count) := by
  obtain ⟨front, last, rfl, holds⟩ := ends
  rcases Nat.lt_or_ge front.length count with more | enough
  · left
    apply List.drop_eq_nil_of_le
    rw [List.length_append]
    exact more
  · right
    exact ⟨front.drop count, last, List.drop_append_of_le_length enough, holds⟩

theorem endsIn_of_forall (some : tokens ≠ []) (all : ∀ token ∈ tokens, P token) :
    EndsIn P tokens := by
  obtain ⟨front, last, rfl⟩ := (List.eq_nil_or_concat' tokens).resolve_left some
  exact ⟨front, last, rfl, all last (by simp)⟩

theorem passFrom_nil : rule.passFrom done [] = [] := passFrom_of_short rule.span_pos

/-- A pass keeps the last token of a sentence, or writes another one for it. -/
theorem EndsIn.passFrom (writes : ∀ {window replacement occurrence},
      rule.replace? window = some replacement → ∀ token ∈ rule.mint occurrence replacement, P token)
    (ends : EndsIn P tokens) : EndsIn P (rule.passFrom done tokens) := by
  fun_induction rule.passFrom done tokens with
  | case1 => exact ends
  | case2 done tokens long _ replacement found ih =>
    rcases ends.drop rule.span with nothing | behind
    · rw [nothing, passFrom_nil, List.append_nil]
      apply endsIn_of_forall (mint_ne_nil (TagRule.replacement_ne_nil found))
      exact writes found
    · exact (ih behind).prepend _
  | case3 done tokens long positive missing ih =>
    rcases ends.drop 1 with nothing | behind
    · have only := List.take_append_drop 1 tokens
      rw [nothing, List.append_nil] at only
      rw [nothing, passFrom_nil, List.append_nil, only]
      exact ends
    · exact (ih behind).prepend _

end EndsIn

end NumberedRule

namespace TagTable

variable {table : TagTable} {mark : Token} {tokens : List Token}

theorem Unshared.retag_append (unshared : table.Unshared)
    (overlook : ∀ rule ∈ table.rules, rule.Overlooks mark) (tokens : List Token) :
    table.retag (tokens ++ [mark]) = table.retag tokens ++ [mark] := by
  apply unshared.retag_relates (R := fun tokens marked => marked = tokens ++ [mark]) unshared
    (List.map_id _).symm _ rfl
  rintro rule member tokens _ rfl
  exact (overlook rule member).passFrom_append

/-- Retagging keeps the last token of a sentence, or some rule has written another one for it. -/
theorem endsIn_retag {P : Token → Prop} (writes : ∀ rule ∈ table.rules,
      ∀ {window replacement occurrence}, rule.replace? window = some replacement →
        ∀ token ∈ rule.mint occurrence replacement, P token)
    (ends : NumberedRule.EndsIn P tokens) : NumberedRule.EndsIn P (table.retag tokens) :=
  retag_induction (fun _ member _ _ before => before.passFrom (writes _ member)) ends

theorem retag_nil : table.retag [] = [] := by
  apply retag_induction (P := fun tokens => tokens = []) _ rfl
  rintro rule _ _ _ rfl
  exact NumberedRule.passFrom_nil

end TagTable

/-! ### Tables that pass over a mark -/

/--
Whether a rule passes over a tag: it names the tags that its windows have, the tag is none of them,
and the rule writes other tags.
-/
def TagRule.passesOver (rule : TagRule) (names : List (List Char)) (tag : String) : Bool :=
  rule.namesTags names && !names.contains tag.toList &&
    if rule.isNumbered then rule.writesOneToken else rule.writesOtherTags [tag.toList]

section PassesOver

variable {rule : NumberedRule} {names : List (List Char)} {tag : String} {mark token : Token}

/-- A tag without a semicolon is all that a pattern can see of it. -/
theorem Token.leadingTag_of_tag (plain : ';' ∉ tag.toList) (tagged : token.tag = tag) :
    token.leadingTag = tag.toList := by
  rw [leadingTag, tagged]
  apply List.takeWhile_eq_self_iff.mpr
  intro c member
  rw [bne_iff_ne]
  rintro rfl
  exact plain member

theorem NumberedRule.overlooks_of_passesOver (passes : rule.passesOver names tag = true)
    (plain : ';' ∉ tag.toList) (tagged : mark.tag = tag) : rule.Overlooks mark := by
  simp only [TagRule.passesOver, Bool.and_eq_true, Bool.not_eq_true', List.contains_eq_mem,
    decide_eq_false_iff_not] at passes
  obtain ⟨⟨named, other⟩, -⟩ := passes
  intro window replacement found member
  have name := TagRule.mem_names_of_replace? named found mark member
  rw [Token.leadingTag_of_tag plain tagged] at name
  exact other name

/-- A rule that passes over a tag writes a synthetic tag, or a fixed one that is different. -/
theorem NumberedRule.tag_ne_of_passesOver (passes : rule.passesOver names tag = true)
    (numbered : rule.ordinal.isSome = rule.isNumbered) (plain : ';' ∉ tag.toList)
    (signless : '#' ∉ tag.toList) {window : String} {replacement : List Token} {occurrence : Nat}
    (found : rule.replace? window = some replacement) :
    ∀ token ∈ rule.mint occurrence replacement, token.tag ≠ tag := by
  intro token member tagged
  have leading := Token.leadingTag_of_tag plain tagged
  simp only [TagRule.passesOver, Bool.and_eq_true] at passes
  obtain ⟨-, writes⟩ := passes
  cases ordinal : rule.ordinal with
  | some number =>
    have counts : rule.isNumbered = true := by simpa [ordinal] using numbered.symm
    rw [if_pos counts] at writes
    have sign := hash_mem_leadingTag (tag_of_mem_mint ordinal writes found member)
    rw [leading] at sign
    exact signless sign
  | none =>
    have uncounted : ¬ rule.isNumbered = true := by
      rw [← numbered, ordinal]
      simp
    rw [if_neg uncounted] at writes
    have same : rule.mint occurrence replacement = replacement := by simp [mint, ordinal]
    have different := TagRule.not_mem_names_of_replace? writes found token (same ▸ member)
    exact different (List.mem_singleton.mpr leading)

variable {entries : List TagEntry} {tokens : List Token} {next : Nat}

/-- A mark behind a sentence stays there when the sentence is retagged. -/
theorem TagTable.retag_append_of_passesOver
    (fresh : ∀ rule ∈ rulesOf entries, rule.bringsNumber = false)
    (passes : ∀ rule ∈ rulesOf entries, rule.passesOver names tag = true)
    (plain : ';' ∉ tag.toList) (tagged : mark.tag = tag) :
    (build entries next).1.retag (tokens ++ [mark]) =
      (build entries next).1.retag tokens ++ [mark] := by
  apply (unshared_build fresh next).retag_append
  intro rule member
  have own := forall_mem_rules_build (P := fun rule => rule.passesOver names tag = true) passes rule
    member
  exact NumberedRule.overlooks_of_passesOver own plain tagged

/-- A sentence that does not end in the mark does not end in it when it is retagged. -/
theorem TagTable.getLast?_retag_of_passesOver
    (fresh : ∀ rule ∈ rulesOf entries, rule.bringsNumber = false)
    (passes : ∀ rule ∈ rulesOf entries, rule.passesOver names tag = true)
    (plain : ';' ∉ tag.toList) (signless : '#' ∉ tag.toList)
    (other : ∀ last ∈ tokens.getLast?, last.tag ≠ tag) :
    ∀ last ∈ ((build entries next).1.retag tokens).getLast?, last.tag ≠ tag := by
  rcases List.eq_nil_or_concat' tokens with rfl | ⟨front, last, rfl⟩
  · rw [retag_nil]
    simp
  · have ends : NumberedRule.EndsIn (fun token => token.tag ≠ tag) (front ++ [last]) :=
      ⟨front, last, rfl, other last (by simp)⟩
    have kept : NumberedRule.EndsIn (fun token => token.tag ≠ tag)
        ((build entries next).1.retag (front ++ [last])) := by
      refine endsIn_retag (fun rule member => ?_) ends
      have own := forall_mem_rules_build (P := fun rule => rule.passesOver names tag = true) passes
        rule member
      intro window replacement occurrence found
      exact NumberedRule.tag_ne_of_passesOver own (isSome_ordinal_of_mem_build fresh member) plain
        signless found
    obtain ⟨before, final, shape, different⟩ := kept
    rw [shape]
    simpa using different

end PassesOver

end Constituency
