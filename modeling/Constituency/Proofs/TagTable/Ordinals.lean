import Constituency.Accepted
import Constituency.Proofs.Text.Lexeme
import Constituency.TagTable.Reader
import Constituency.TagTable.Retag
import Mathlib.Data.List.Nodup

/-!
# Rule numbers

Registering a list of rules gives consecutive numbers, in this order, to those that have to be told
apart. These are all the numbers there are as long as no rule keeps the number of an earlier
registration: a copy of a numbered rule without what it was numbered for. A table looks a number up
among its rules and finds the last one that has it, which is the only one if no number is shared.
-/
namespace Constituency

open Constituency.Text

namespace NumberedRule

/-- A registered rule has a number if it has to be told apart, unless it brings one along. -/
theorem isSome_ordinal_register_iff {rule : NumberedRule} {next : Nat} :
    (rule.register next).1.ordinal.isSome = rule.isNumbered ↔ rule.bringsNumber = false := by
  rw [register, bringsNumber]
  split
  next numbered => simp [numbered]
  next other => simp [other]

end NumberedRule

namespace TagTable

/-! ### Registered rules -/

theorem rulesOf_append (front back : List TagEntry) :
    rulesOf (front ++ back) = rulesOf front ++ rulesOf back := List.filterMap_append

theorem mem_rulesOf {entries : List TagEntry} {rule : NumberedRule} :
    rule ∈ rulesOf entries ↔ .rule rule ∈ entries := by
  rw [rulesOf, List.mem_filterMap]
  constructor
  · rintro ⟨entry, member, own⟩
    cases entry <;> cases own
    exact member
  · exact fun member => ⟨_, member, rfl⟩

theorem toTagRule_number (rules : List NumberedRule) (next : Nat) :
    (number rules next).1.map NumberedRule.toTagRule = rules.map NumberedRule.toTagRule := by
  induction rules generalizing next with
  | nil => rfl
  | cons rule rest ih => simp [number, ih]

theorem exists_register_of_mem_number {rules : List NumberedRule} {next : Nat}
    {registered : NumberedRule} (member : registered ∈ (number rules next).1) :
    ∃ rule ∈ rules, ∃ free, registered = (rule.register free).1 := by
  induction rules generalizing next with
  | nil => contradiction
  | cons rule rest ih =>
    rcases List.mem_cons.mp member with rfl | later
    · exact ⟨rule, List.mem_cons_self .., next, rfl⟩
    · obtain ⟨other, inside, registered⟩ := ih later
      exact ⟨other, List.mem_cons_of_mem _ inside, registered⟩

theorem exists_mem_number {rules : List NumberedRule} (next : Nat) {rule : NumberedRule}
    (member : rule ∈ rules) : ∃ free, (rule.register free).1 ∈ (number rules next).1 := by
  induction rules generalizing next with
  | nil => contradiction
  | cons first rest ih =>
    rcases List.mem_cons.mp member with rfl | later
    · exact ⟨next, List.mem_cons_self ..⟩
    · obtain ⟨free, inside⟩ := ih _ later
      exact ⟨free, List.mem_cons_of_mem _ inside⟩

/-- The rules that have a number are those that have to be told apart, if none brings one along. -/
theorem isSome_ordinal_number_iff {rules : List NumberedRule} {next : Nat} :
    (∀ rule ∈ (number rules next).1, rule.ordinal.isSome = rule.isNumbered) ↔
      ∀ rule ∈ rules, rule.bringsNumber = false := by
  constructor
  · intro exact rule member
    obtain ⟨free, registered⟩ := exists_mem_number next member
    have numbered := exact _ registered
    -- Registering changes the number only, so a rule is to be told apart before as afterwards.
    rw [NumberedRule.toTagRule_register] at numbered
    exact NumberedRule.isSome_ordinal_register_iff.mp numbered
  · intro fresh registered member
    obtain ⟨rule, inside, free, rfl⟩ := exists_register_of_mem_number member
    rw [NumberedRule.toTagRule_register]
    exact NumberedRule.isSome_ordinal_register_iff.mpr (fresh rule inside)

/-- Whatever others bring along, the rules that have to be told apart get consecutive numbers. -/
theorem ordinals_number (rules : List NumberedRule) (next : Nat) :
    ∃ count, ((number rules next).1.filter (·.isNumbered)).filterMap NumberedRule.ordinal =
        List.range' next count ∧ (number rules next).2 = next + count := by
  induction rules generalizing next with
  | nil => exact ⟨0, rfl, rfl⟩
  | cons rule rest ih =>
    by_cases numbered : rule.isNumbered = true
    · obtain ⟨count, ordinals, free⟩ := ih (next + 1)
      have last : (number (rule :: rest) next).2 = (number rest (next + 1)).2 := by
        simp [number, NumberedRule.register, numbered]
      refine ⟨count + 1, ?_, by omega⟩
      simp [number, NumberedRule.register, numbered, ordinals, List.range'_succ]
    · obtain ⟨count, ordinals, free⟩ := ih next
      exact ⟨count, by simp [number, NumberedRule.register, numbered, ordinals],
        by simp [number, NumberedRule.register, numbered, free]⟩

/-- Rules that bring no number along have no other numbers than the ones they get. -/
theorem ordinals_number_of_fresh {rules : List NumberedRule}
    (fresh : ∀ rule ∈ rules, rule.bringsNumber = false) (next : Nat) :
    ∃ count, (number rules next).1.filterMap NumberedRule.ordinal = List.range' next count ∧
      (number rules next).2 = next + count := by
  obtain ⟨count, ordinals, free⟩ := ordinals_number rules next
  refine ⟨count, ?_, free⟩
  rw [← ordinals, List.filterMap_filter]
  refine List.filterMap_congr fun rule member => ?_
  have numbered := isSome_ordinal_number_iff.mpr fresh rule member
  cases own : rule.ordinal <;> simp [← numbered, own]

/-! ### Rules that are read -/

theorem ordinal_of_readEntry {text rest : List Char} {rule : NumberedRule}
    (done : readEntry text = .ok (.rule rule, rest)) : rule.ordinal = none := by
  rw [readEntry] at done
  obtain ⟨⟨keyword, behind⟩, -, done⟩ := bind_eq_ok_iff.mp done
  dsimp only at done
  split at done
  · obtain ⟨name, -, done⟩ := bind_eq_ok_iff.mp done
    obtain ⟨address, -, done⟩ := bind_eq_ok_iff.mp done
    simp [pure, Except.pure] at done
  split at done
  · obtain ⟨tag, -, done⟩ := bind_eq_ok_iff.mp done
    obtain ⟨label, -, done⟩ := bind_eq_ok_iff.mp done
    obtain ⟨description, -, done⟩ := bind_eq_ok_iff.mp done
    simp [pure, Except.pure] at done
  split at done
  · obtain ⟨⟨read, behind⟩, -, done⟩ := bind_eq_ok_iff.mp done
    obtain ⟨made, -⟩ := Prod.mk.inj (Except.ok.inj done)
    exact TagEntry.rule.inj made ▸ rfl
  · contradiction

/-- A text spells rules that were never registered. -/
theorem ordinal_of_mem_entriesOf {content : String} {rule : NumberedRule}
    (member : TagEntry.rule rule ∈ (entriesOf content).1) : rule.ordinal = none := by
  have all (room : Nat) (text : List Char)
      (member : TagEntry.rule rule ∈ (readEntries room text).1) : rule.ordinal = none := by
    fun_induction readEntries room text with
    | case1 => contradiction
    | case2 => contradiction
    | case3 => contradiction
    | case4 room text entry rest what missing some read =>
      obtain rfl := List.mem_singleton.mp member
      exact ordinal_of_readEntry read
    | case5 room text entry rest behind found others error listed some read ih =>
      rcases List.mem_cons.mp member with rfl | later
      · exact ordinal_of_readEntry read
      · exact ih (listed ▸ later)
  exact all _ _ member

/-! ### One table -/

/-- No two rules of a table have one number. -/
def Unshared (table : TagTable) : Prop := (table.rules.filterMap NumberedRule.ordinal).Nodup

theorem mem_rules_build {entries : List TagEntry} {next : Nat} {rule : NumberedRule} :
    rule ∈ (build entries next).1.rules ↔ rule ∈ (number (rulesOf entries) next).1 :=
  (NumberedRule.sort_perm _).mem_iff

/-- What is true of all rules that are registered, whatever their numbers, is true in the table. -/
theorem forall_mem_rules_build {P : TagRule → Prop} {entries : List TagEntry} {next : Nat}
    (all : ∀ rule ∈ rulesOf entries, P rule.toTagRule) :
    ∀ rule ∈ (build entries next).1.rules, P rule.toTagRule := by
  intro registered member
  obtain ⟨rule, inside, free, rfl⟩ := exists_register_of_mem_number (mem_rules_build.mp member)
  rw [NumberedRule.toTagRule_register]
  exact all rule inside

theorem isSome_ordinal_of_mem_build {entries : List TagEntry} {next : Nat} {rule : NumberedRule}
    (fresh : ∀ rule ∈ rulesOf entries, rule.bringsNumber = false)
    (member : rule ∈ (build entries next).1.rules) : rule.ordinal.isSome = rule.isNumbered :=
  isSome_ordinal_number_iff.mpr fresh rule (mem_rules_build.mp member)

theorem ordinals_rules_assemble (registered : List NumberedRule) (entries : List TagEntry) :
    ((assemble registered entries).rules.filterMap NumberedRule.ordinal).Perm
      (registered.filterMap NumberedRule.ordinal) :=
  (NumberedRule.sort_perm registered).filterMap _

theorem unshared_build {entries : List TagEntry}
    (fresh : ∀ rule ∈ rulesOf entries, rule.bringsNumber = false) (next : Nat) :
    (build entries next).1.Unshared := by
  obtain ⟨count, ordinals, -⟩ := ordinals_number_of_fresh fresh next
  exact (ordinals_rules_assemble _ entries).nodup_iff.mpr (ordinals ▸ List.nodup_range')

/-! ### Looking up a number -/

/-- A number leads to the last rule that has it. -/
theorem ruleByOrdinal_eq_getLast? (table : TagTable) (ordinal : Nat) :
    table.ruleByOrdinal ordinal =
      (table.rules.filter (·.ordinal == some ordinal)).getLast? := by
  rw [ruleByOrdinal, List.findRev?_eq_find?_reverse, List.getLast?_filter]

theorem ruleByOrdinal_eq_none_iff {table : TagTable} {ordinal : Nat} :
    table.ruleByOrdinal ordinal = none ↔ ∀ rule ∈ table.rules, rule.ordinal ≠ some ordinal := by
  rw [ruleByOrdinal_eq_getLast?, List.getLast?_eq_none_iff, List.filter_eq_nil_iff]
  simp only [beq_iff_eq, ne_eq]

theorem ruleByOrdinal_eq_some_iff {table : TagTable} {ordinal : Nat} {rule : NumberedRule} :
    table.ruleByOrdinal ordinal = some rule ↔
      ∃ front back, table.rules = front ++ rule :: back ∧ rule.ordinal = some ordinal ∧
        ∀ other ∈ back, other.ordinal ≠ some ordinal := by
  simp only [ruleByOrdinal, List.findRev?_eq_find?_reverse, List.find?_eq_some_iff_append,
    beq_iff_eq, Bool.not_eq_true', beq_eq_false_iff_ne]
  constructor
  · rintro ⟨own, back, front, reversed, others⟩
    refine ⟨front.reverse, back.reverse, ?_, own, by simpa using others⟩
    simpa using congrArg List.reverse reversed
  · rintro ⟨front, back, rules, own, others⟩
    exact ⟨own, back.reverse, front.reverse, by simp [rules], by simpa using others⟩

theorem mem_of_ruleByOrdinal {table : TagTable} {ordinal : Nat} {rule : NumberedRule}
    (found : table.ruleByOrdinal ordinal = some rule) :
    rule ∈ table.rules ∧ rule.ordinal = some ordinal := by
  obtain ⟨front, back, rules, own, -⟩ := ruleByOrdinal_eq_some_iff.mp found
  exact ⟨by simp [rules], own⟩

/-- Where no number is given twice, no rule has the number of one that stands behind it. -/
theorem ordinal_ne_of_nodup {first rule : NumberedRule} {rules : List NumberedRule} {ordinal : Nat}
    (nodup : ((first :: rules).filterMap NumberedRule.ordinal).Nodup) (member : rule ∈ rules)
    (own : rule.ordinal = some ordinal) : first.ordinal ≠ some ordinal := by
  intro same
  have repeated : ordinal ∈ rules.filterMap NumberedRule.ordinal :=
    List.mem_filterMap.mpr ⟨rule, member, own⟩
  rw [List.filterMap_cons_some same] at nodup
  exact (List.nodup_cons.mp nodup).1 repeated

/-- Where no number is given twice, a rule is the only one with its number. -/
theorem filter_ordinal_of_nodup {rules : List NumberedRule} {rule : NumberedRule} {ordinal : Nat}
    (nodup : (rules.filterMap NumberedRule.ordinal).Nodup) (member : rule ∈ rules)
    (own : rule.ordinal = some ordinal) : rules.filter (·.ordinal == some ordinal) = [rule] := by
  induction rules with
  | nil => contradiction
  | cons first rest ih =>
    have nodup' := nodup.sublist ((List.sublist_cons_self first rest).filterMap _)
    rcases List.mem_cons.mp member with rfl | later
    · have others : ∀ other ∈ rest, ¬ (other.ordinal == some ordinal) = true :=
        fun other inside same => ordinal_ne_of_nodup nodup inside (by simpa using same) own
      rw [List.filter_cons_of_pos (by simpa using own), List.filter_eq_nil_iff.mpr others]
    · have other := ordinal_ne_of_nodup nodup later own
      rw [List.filter_cons_of_neg (by simpa using other), ih nodup' later]

theorem ruleByOrdinal_of_filter {table : TagTable} {rule : NumberedRule} {ordinal : Nat}
    (only : table.rules.filter (·.ordinal == some ordinal) = [rule]) :
    table.ruleByOrdinal ordinal = some rule := by
  rw [ruleByOrdinal_eq_getLast?, only]
  rfl

/-- Where no number is given twice, it leads to the one rule that has it. -/
theorem Unshared.ruleByOrdinal_eq_some_iff {table : TagTable} (unshared : table.Unshared)
    {ordinal : Nat} {rule : NumberedRule} :
    table.ruleByOrdinal ordinal = some rule ↔
      rule ∈ table.rules ∧ rule.ordinal = some ordinal :=
  ⟨mem_of_ruleByOrdinal, fun ⟨member, own⟩ =>
    ruleByOrdinal_of_filter (filter_ordinal_of_nodup unshared member own)⟩

/-- A tag leads to a rule only through the number of the rule. -/
theorem ruleFor_display {table : TagTable} {tag : SyntheticTag} (based : tag.base ≠ "") :
    table.ruleFor tag.display =
      if tag.ordinal ≤ maxWord ∧ tag.occurrence ≤ maxWord then table.ruleByOrdinal tag.ordinal
      else none := by
  rw [ruleFor, SyntheticTag.read_display_eq tag based]
  split <;> rfl

/-- A tag that can be read leads to the rule that has minted it, if no other has its number. -/
theorem ruleFor_minted {table : TagTable} {rule : NumberedRule} {ordinal occurrence : Nat}
    (only : table.rules.filter (·.ordinal == some ordinal) = [rule]) (small : ordinal ≤ maxWord)
    (few : occurrence ≤ maxWord) :
    table.ruleFor (SyntheticTag.display ⟨rule.base, ordinal, occurrence⟩) = some rule := by
  rw [ruleFor_display rule.base_nonempty, if_pos ⟨small, few⟩]
  exact ruleByOrdinal_of_filter only

theorem Unshared.ruleFor_minted {table : TagTable} (unshared : table.Unshared)
    {rule : NumberedRule} {ordinal occurrence : Nat} (member : rule ∈ table.rules)
    (own : rule.ordinal = some ordinal) (small : ordinal ≤ maxWord) (few : occurrence ≤ maxWord) :
    table.ruleFor (SyntheticTag.display ⟨rule.base, ordinal, occurrence⟩) = some rule :=
  TagTable.ruleFor_minted (filter_ordinal_of_nodup unshared member own) small few

/-- A tag that a rule of this table mints leads to no rule of the other one. -/
def IsStrangeTo (table other : TagTable) : Prop :=
  ∀ rule ∈ table.rules, ∀ ordinal, rule.ordinal = some ordinal → ∀ occurrence,
    other.ruleFor (SyntheticTag.display ⟨rule.base, ordinal, occurrence⟩) = none

theorem isStrangeTo_of_disjoint {table other : TagTable}
    (disjoint : (table.rules.filterMap NumberedRule.ordinal).Disjoint
      (other.rules.filterMap NumberedRule.ordinal)) : table.IsStrangeTo other := by
  intro rule member ordinal own occurrence
  rw [ruleFor_display rule.base_nonempty]
  split
  next =>
    refine ruleByOrdinal_eq_none_iff.mpr fun rule' member' own' => ?_
    exact disjoint (List.mem_filterMap.mpr ⟨rule, member, own⟩)
      (List.mem_filterMap.mpr ⟨rule', member', own'⟩)
  next => rfl

end TagTable

end Constituency
