import Constituency.Proofs.TagTable.Minted

/-!
# Tables with other numbers

Two tables that are built from the same entries differ in the numbers of their rules, and the rules
stand in the same order. So the second table does to a sentence what the first one does, with its
own numbers in the tags that it mints. No rule can tell the difference: where a window is replaced
no tag in it shows a number sign in front of its first semicolon, so there is no number in it. And
what is looked up by a tag is looked up by way of the number, which leads to the same rule.
-/
namespace Constituency

open Constituency.Text

variable {shift : Nat → Nat}

/-! ### Other numbers -/

/-- A tag with another number, if it is a synthetic one. -/
def SyntheticTag.renumber (shift : Nat → Nat) (tag : String) : String :=
  ((read tag).map fun synthetic =>
    display { synthetic with ordinal := shift synthetic.ordinal }).getD tag

def Token.renumber (shift : Nat → Nat) (token : Token) : Token :=
  { token with tag := SyntheticTag.renumber shift token.tag }

def NumberedRule.renumber (shift : Nat → Nat) (rule : NumberedRule) : NumberedRule :=
  { rule with ordinal := rule.ordinal.map shift }

namespace SyntheticTag

theorem renumber_of_plain {tag : String} (plain : read tag = none) : renumber shift tag = tag := by
  simp [renumber, plain]

theorem renumber_display {tag : SyntheticTag} (based : tag.base ≠ "")
    (ordinal : tag.ordinal ≤ maxWord) (occurrence : tag.occurrence ≤ maxWord) :
    renumber shift tag.display = display { tag with ordinal := shift tag.ordinal } := by
  rw [renumber, read_display_eq tag based, if_pos ⟨ordinal, occurrence⟩]
  rfl

end SyntheticTag

namespace Token

theorem renumber_of_plain {token : Token} (plain : SyntheticTag.read token.tag = none) :
    token.renumber shift = token := by
  rw [renumber, SyntheticTag.renumber_of_plain plain]

theorem map_renumber_of_plain {tokens : List Token}
    (plain : ∀ token ∈ tokens, SyntheticTag.read token.tag = none) :
    tokens.map (renumber shift) = tokens := by
  rw [List.map_congr_left fun token member => renumber_of_plain (plain token member), List.map_id']

end Token

/--
One table is another one with other numbers, no two of which are equal, and the tags with these
numbers can be read.
-/
structure TagTable.Renumbers (shift : Nat → Nat) (table other : TagTable) : Prop where
  unshared : table.Unshared
  otherUnshared : other.Unshared
  rules : other.rules = table.rules.map (NumberedRule.renumber shift)
  links : other.links = table.links
  glossary : other.glossary = table.glossary
  readable : ∀ rule ∈ table.rules, ∀ ordinal, rule.ordinal = some ordinal →
    ordinal ≤ maxWord ∧ shift ordinal ≤ maxWord

/-! ### Tables of the same entries -/

/-- The number that a rule has in one table, from the one that it has in another. -/
def renumbering (first second ordinal : Nat) : Nat := second + (ordinal - first)

namespace NumberedRule

theorem insert_map_renumber (rule : NumberedRule) (rules : List NumberedRule) :
    insert (rule.renumber shift) (rules.map (renumber shift)) =
      (insert rule rules).map (renumber shift) := by
  induction rules with
  | nil => rfl
  | cons first rest ih =>
    -- The order of the rules does not depend on their numbers.
    have same : (first.renumber shift).outranks (rule.renumber shift) = first.outranks rule := rfl
    rw [List.map_cons, insert, insert, same, ih]
    split <;> rfl

theorem sort_map_renumber (rules : List NumberedRule) :
    sort (rules.map (renumber shift)) = (sort rules).map (renumber shift) := by
  induction rules with
  | nil => rfl
  | cons rule rest ih =>
    change insert (rule.renumber shift) (sort (rest.map (renumber shift))) = _
    rw [ih, insert_map_renumber]
    rfl

end NumberedRule

namespace TagTable

/-- After as many rules both tables have given out as many numbers. -/
theorem number_eq_map {rules : List NumberedRule}
    (fresh : ∀ rule ∈ rules, rule.bringsNumber = false) (first second done : Nat) :
    (number rules (second + done)).1 =
      (number rules (first + done)).1.map (NumberedRule.renumber (renumbering first second)) := by
  induction rules generalizing done with
  | nil => rfl
  | cons rule rest ih =>
    obtain ⟨here, later⟩ := List.forall_mem_cons.mp fresh
    by_cases numbered : rule.isNumbered = true
    · have own : renumbering first second (first + done) = second + done := by
        rw [renumbering, Nat.add_sub_cancel_left]
      have others := ih later (done + 1)
      simp only [number, NumberedRule.register, if_pos numbered, List.map_cons,
        NumberedRule.renumber, Option.map_some, own]
      exact congrArg _ others
    · have none : rule.ordinal = none := by
        simpa [NumberedRule.bringsNumber, numbered] using here
      have same : rule.renumber (renumbering first second) = rule := by
        obtain ⟨rule, ordinal⟩ := rule
        obtain rfl : ordinal = .none := none
        rfl
      simp only [number, NumberedRule.register, if_neg numbered, List.map_cons, same]
      exact congrArg _ (ih later done)

variable {entries : List TagEntry}

/-- The numbers of a table lie in front of the first one that is left. -/
theorem ordinal_lt_of_mem_build {next ordinal : Nat} {rule : NumberedRule}
    (fresh : ∀ rule ∈ rulesOf entries, rule.bringsNumber = false)
    (member : rule ∈ (build entries next).1.rules) (own : rule.ordinal = some ordinal) :
    ordinal < (build entries next).2 := by
  obtain ⟨count, ordinals, free⟩ := ordinals_number_of_fresh fresh next
  have unsorted : rule ∈ (number (rulesOf entries) next).1 :=
    (NumberedRule.sort_perm _).mem_iff.mp member
  have given : ordinal ∈ List.range' next count :=
    ordinals ▸ List.mem_filterMap.mpr ⟨rule, unsorted, own⟩
  have total : (build entries next).2 = next + count := free
  rw [total]
  exact (List.mem_range'_1.mp given).2

theorem renumbers_build {first second : Nat}
    (fresh : ∀ rule ∈ rulesOf entries, rule.bringsNumber = false)
    (fits : (build entries first).2 ≤ maxWord + 1)
    (otherFits : (build entries second).2 ≤ maxWord + 1) :
    Renumbers (renumbering first second) (build entries first).1 (build entries second).1 := by
  have rules : (build entries second).1.rules = (build entries first).1.rules.map
      (NumberedRule.renumber (renumbering first second)) := by
    have numbered := number_eq_map fresh first second 0
    change NumberedRule.sort (number (rulesOf entries) second).1 = _
    rw [Nat.add_zero, Nat.add_zero] at numbered
    rw [numbered, NumberedRule.sort_map_renumber]
    rfl
  refine ⟨unshared_build fresh first, unshared_build fresh second, rules, rfl, rfl,
    fun rule member ordinal own => ⟨?_, ?_⟩⟩
  · have below := ordinal_lt_of_mem_build fresh member own
    omega
  · have moved : rule.renumber (renumbering first second) ∈ (build entries second).1.rules :=
      rules ▸ List.mem_map_of_mem member
    have below := ordinal_lt_of_mem_build fresh moved (congrArg (Option.map _) own)
    omega

/-! ### Tags that can be renumbered -/

/-- Whether a tag is not synthetic, or one of a rule of the table that can be read. -/
def Knows (table : TagTable) (tag : String) : Prop :=
  SyntheticTag.read tag = none ∨ ∃ rule ∈ table.rules, ∃ ordinal occurrence,
    rule.ordinal = some ordinal ∧ occurrence ≤ maxWord ∧
      tag = SyntheticTag.display ⟨rule.base, ordinal, occurrence⟩

namespace Renumbers

variable {table other : TagTable} {names : List (List Char)} {token : Token}

/-- A token that is changed shows a number sign, before and after. -/
theorem renumber_eq_or (renumbers : Renumbers shift table other) (known : table.Knows token.tag) :
    token.renumber shift = token ∨
      '#' ∈ token.leadingTag ∧ '#' ∈ (token.renumber shift).leadingTag := by
  rcases known with plain | ⟨rule, member, ordinal, occurrence, own, few, tag⟩
  · exact .inl (Token.renumber_of_plain plain)
  · have small := (renumbers.readable rule member ordinal own).1
    have renumbered : (token.renumber shift).tag =
        SyntheticTag.display ⟨rule.base, shift ordinal, occurrence⟩ := by
      rw [Token.renumber, tag, SyntheticTag.renumber_display rule.base_nonempty small few]
    exact .inr ⟨hash_mem_leadingTag tag, hash_mem_leadingTag renumbered⟩

/-- A rule that names its tags without a number sign sees no difference. -/
theorem replace?_map (renumbers : Renumbers shift table other) {rule : TagRule}
    (named : rule.namesTags names = true) (signless : ∀ name ∈ names, '#' ∉ name)
    {window : List Token} (known : ∀ token ∈ window, table.Knows token.tag) :
    rule.replace? (joinTokens (window.map (Token.renumber shift))) =
      rule.replace? (joinTokens window) := by
  by_cases same : ∀ token ∈ window, token.renumber shift = token
  · rw [List.map_congr_left same, List.map_id']
  · -- A token that is changed keeps both windows from being replaced.
    push Not at same
    obtain ⟨token, member, different⟩ := same
    obtain ⟨sign, otherSign⟩ :=
      (renumbers.renumber_eq_or (known token member)).resolve_left different
    have nothing : rule.replace? (joinTokens window) = none := by
      apply Option.eq_none_iff_forall_ne_some.mpr
      intro replacement found
      exact signless _ (TagRule.mem_names_of_replace? named found token member) sign
    have otherNothing :
        rule.replace? (joinTokens (window.map (Token.renumber shift))) = none := by
      apply Option.eq_none_iff_forall_ne_some.mpr
      intro replacement found
      exact signless _ (TagRule.mem_names_of_replace? named found _ (List.mem_map_of_mem member))
        otherSign
    rw [nothing, otherNothing]

end Renumbers

end TagTable

/-! ### Passes -/

namespace NumberedRule

variable {table other : TagTable} {rule : NumberedRule} {names : List (List Char)} {done : Nat}
  {tokens : List Token}

/--
Whether a rule of a table works alike whatever the numbers are: it names its tags, and writes one
token for each window, which bears a synthetic tag or one without a number sign.
-/
structure IsBlindIn (rule : NumberedRule) (names : List (List Char)) (table : TagTable) : Prop where
  member : rule ∈ table.rules
  numbered : rule.ordinal.isSome = rule.isNumbered
  named : rule.namesTags names = true
  one : rule.writesOneToken = true
  accounted : rule.isAccounted = true

/-- Closed rules that write one token each are blind in each table that is built from them. -/
theorem isBlindIn_of_mem_build {entries : List TagEntry} {next : Nat}
    (fresh : ∀ rule ∈ TagTable.rulesOf entries, rule.bringsNumber = false)
    (closed : ∀ rule ∈ TagTable.rulesOf entries, rule.isClosed names = true)
    (one : ∀ rule ∈ TagTable.rulesOf entries, rule.writesOneToken = true)
    (accounted : ∀ rule ∈ TagTable.rulesOf entries, rule.isAccounted = true) :
    ∀ rule ∈ (TagTable.build entries next).1.rules,
      rule.IsBlindIn names (TagTable.build entries next).1 := by
  intro rule member
  have named : ∀ rule ∈ TagTable.rulesOf entries, rule.namesTags names = true :=
    fun rule own => (Bool.and_eq_true_iff.mp (closed rule own)).1
  exact {
    member
    numbered := TagTable.isSome_ordinal_of_mem_build fresh member
    named := TagTable.forall_mem_rules_build (P := fun rule => rule.namesTags names = true) named
      rule member
    one := TagTable.forall_mem_rules_build (P := fun rule => rule.writesOneToken = true) one
      rule member
    accounted := TagTable.forall_mem_rules_build (P := fun rule => rule.isAccounted = true)
      accounted rule member }

namespace IsBlindIn

/-- Without a number a rule writes what stands in it, and no synthetic tag stands there. -/
theorem read_of_unnumbered (blind : rule.IsBlindIn names table) (free : rule.ordinal = none)
    {window : String} {replacement : List Token}
    (found : rule.replace? window = some replacement) :
    ∀ token ∈ replacement, SyntheticTag.read token.tag = none := by
  have uncounted : rule.isNumbered = false := by simpa [free] using blind.numbered.symm
  intro token member
  exact SyntheticTag.read_of_signless
    (TagRule.signless_of_replace? blind.accounted uncounted found token member)

/-- The one token that a rule writes for a window is known to the table. -/
theorem exists_mint (blind : rule.IsBlindIn names table) {occurrence : Nat} {window : String}
    {replacement : List Token} (found : rule.replace? window = some replacement)
    (few : occurrence ≤ maxWord) :
    ∃ token, rule.mint occurrence replacement = [token] ∧ table.Knows token.tag := by
  obtain ⟨written, rfl⟩ := TagRule.exists_token_of_replace? blind.one found
  cases ordinal : rule.ordinal with
  | some number =>
    refine ⟨⟨written.word, _⟩, by simp only [mint, ordinal]; rfl, .inr ?_⟩
    exact ⟨rule, blind.member, number, occurrence, ordinal, few, rfl⟩
  | none =>
    have plain := blind.read_of_unnumbered ordinal found written (List.mem_singleton_self written)
    exact ⟨written, by simp [mint, ordinal], .inl plain⟩

/-- The rule with another number writes the token with that number. -/
theorem mint_renumber (blind : rule.IsBlindIn names table)
    (renumbers : TagTable.Renumbers shift table other) {occurrence : Nat} {window : String}
    {replacement : List Token} (found : rule.replace? window = some replacement)
    (few : occurrence ≤ maxWord) :
    (rule.renumber shift).mint occurrence replacement =
      (rule.mint occurrence replacement).map (Token.renumber shift) := by
  obtain ⟨written, rfl⟩ := TagRule.exists_token_of_replace? blind.one found
  cases ordinal : rule.ordinal with
  | some number =>
    have small := (renumbers.readable rule blind.member number ordinal).1
    have tag : SyntheticTag.renumber shift
        (SyntheticTag.display ⟨rule.base, number, occurrence⟩) =
          SyntheticTag.display ⟨rule.base, shift number, occurrence⟩ :=
      SyntheticTag.renumber_display rule.base_nonempty small few
    simp [mint, renumber, ordinal, Token.renumber, tag]
  | none =>
    have plain := blind.read_of_unnumbered ordinal found written (List.mem_singleton_self written)
    simp [mint, renumber, ordinal, Token.renumber_of_plain plain]

theorem length_passFrom_le (blind : rule.IsBlindIn names table)
    (room : done + tokens.length ≤ maxWord) :
    (rule.passFrom done tokens).length ≤ tokens.length := by
  fun_induction rule.passFrom done tokens with
  | case1 => exact Nat.le_refl _
  | case2 done tokens long positive replacement found ih =>
    have next : done + 1 ≤ maxWord := by omega
    obtain ⟨token, written, -⟩ := blind.exists_mint found next
    rw [List.length_drop] at ih
    rw [written, List.length_append, List.length_singleton]
    omega
  | case3 done tokens long positive missing ih =>
    rw [List.length_drop] at ih
    rw [List.length_append, List.length_take]
    omega

theorem knows_of_mem_passFrom (blind : rule.IsBlindIn names table)
    (room : done + tokens.length ≤ maxWord) (known : ∀ token ∈ tokens, table.Knows token.tag) :
    ∀ token ∈ rule.passFrom done tokens, table.Knows token.tag := by
  fun_induction rule.passFrom done tokens with
  | case1 => exact known
  | case2 done tokens long positive replacement found ih =>
    have next : done + 1 ≤ maxWord := by omega
    obtain ⟨token, written, own⟩ := blind.exists_mint found next
    rw [written]
    refine List.forall_mem_append.mpr ⟨by simpa using own, ?_⟩
    apply ih
    · rw [List.length_drop]
      omega
    · exact fun token member => known token (List.mem_of_mem_drop member)
  | case3 done tokens long positive missing ih =>
    refine List.forall_mem_append.mpr
      ⟨fun token member => known token (List.mem_of_mem_take member), ?_⟩
    apply ih
    · rw [List.length_drop]
      omega
    · exact fun token member => known token (List.mem_of_mem_drop member)

/-- What a rule does with the window at its place does not depend on the numbers. -/
theorem replace?_take (blind : rule.IsBlindIn names table)
    (renumbers : TagTable.Renumbers shift table other) (signless : ∀ name ∈ names, '#' ∉ name)
    (known : ∀ token ∈ tokens, table.Knows token.tag) :
    (rule.renumber shift).replace?
        (joinTokens ((tokens.map (Token.renumber shift)).take (rule.renumber shift).span)) =
      rule.replace? (joinTokens (tokens.take rule.span)) := by
  rw [← List.map_take]
  exact renumbers.replace?_map blind.named signless fun token member =>
    known token (List.mem_of_mem_take member)

/-- A pass over renumbered tokens of the rule with another number is the renumbered pass. -/
theorem passFrom_renumber (blind : rule.IsBlindIn names table)
    (renumbers : TagTable.Renumbers shift table other) (signless : ∀ name ∈ names, '#' ∉ name)
    (room : done + tokens.length ≤ maxWord) (known : ∀ token ∈ tokens, table.Knows token.tag) :
    (rule.renumber shift).passFrom done (tokens.map (Token.renumber shift)) =
      (rule.passFrom done tokens).map (Token.renumber shift) := by
  fun_induction rule.passFrom done tokens with
  | case1 done tokens short =>
    apply passFrom_of_short
    rwa [List.length_map]
  | case2 done tokens long positive replacement found ih =>
    -- Both passes replace the window, and go on behind it with one application more.
    have same := blind.replace?_take renumbers signless known
    rw [found] at same
    have longer : ¬ (tokens.map (Token.renumber shift)).length < (rule.renumber shift).span := by
      rwa [List.length_map]
    have behind := ih (by rw [List.length_drop]; omega)
      fun token member => known token (List.mem_of_mem_drop member)
    rw [passFrom, if_neg longer, same]
    dsimp only
    rw [blind.mint_renumber renumbers found (by omega), List.map_append, ← behind, List.map_drop]
    rfl
  | case3 done tokens long positive missing ih =>
    have same := blind.replace?_take renumbers signless known
    rw [missing] at same
    have longer : ¬ (tokens.map (Token.renumber shift)).length < (rule.renumber shift).span := by
      rwa [List.length_map]
    have behind := ih (by rw [List.length_drop]; omega)
      fun token member => known token (List.mem_of_mem_drop member)
    rw [passFrom, if_neg longer, same]
    dsimp only
    rw [List.map_append, ← behind, List.map_take, List.map_drop]

end IsBlindIn

end NumberedRule

/-! ### Retagging and looking up -/

namespace TagTable.Renumbers

variable {table other : TagTable} {names : List (List Char)} {tokens : List Token} {tag : String}

/-- A sentence without synthetic tags is retagged alike by both tables, but for the numbers. -/
theorem retag_eq_map (renumbers : Renumbers shift table other)
    (signless : ∀ name ∈ names, '#' ∉ name)
    (blind : ∀ rule ∈ table.rules, rule.IsBlindIn names table) (few : tokens.length ≤ maxWord)
    (plain : ∀ token ∈ tokens, SyntheticTag.read token.tag = none) :
    other.retag tokens = (table.retag tokens).map (Token.renumber shift) ∧
      ∀ token ∈ table.retag tokens, table.Knows token.tag := by
  -- A pass makes no more tokens of a sentence, so the applications of the next one can be counted.
  have kept : other.retag tokens = (table.retag tokens).map (Token.renumber shift) ∧
      (table.retag tokens).length ≤ maxWord ∧
        ∀ token ∈ table.retag tokens, table.Knows token.tag := by
    apply renumbers.unshared.retag_relates
      (R := fun tokens others => others = tokens.map (Token.renumber shift) ∧
        tokens.length ≤ maxWord ∧ ∀ token ∈ tokens, table.Knows token.tag)
      renumbers.otherUnshared renumbers.rules
    · rintro rule member tokens _ ⟨rfl, few, known⟩
      have own := blind rule member
      have room : 0 + tokens.length ≤ maxWord := by rwa [Nat.zero_add]
      exact ⟨own.passFrom_renumber renumbers signless room known,
        Nat.le_trans (own.length_passFrom_le room) few, own.knows_of_mem_passFrom room known⟩
    · exact ⟨(Token.map_renumber_of_plain plain).symm, few,
        fun token member => .inl (plain token member)⟩
  exact ⟨kept.1, kept.2.2⟩

/-- A renumbered tag leads to the renumbered rule. -/
theorem ruleFor_renumber (renumbers : Renumbers shift table other) (known : table.Knows tag) :
    other.ruleFor (SyntheticTag.renumber shift tag) =
      (table.ruleFor tag).map (NumberedRule.renumber shift) := by
  rcases known with plain | ⟨rule, member, ordinal, occurrence, own, few, rfl⟩
  · rw [SyntheticTag.renumber_of_plain plain, ruleFor, ruleFor, plain]
    rfl
  · obtain ⟨small, otherSmall⟩ := renumbers.readable rule member ordinal own
    have moved : rule.renumber shift ∈ other.rules := renumbers.rules ▸ List.mem_map_of_mem member
    have there : other.ruleFor (SyntheticTag.display ⟨rule.base, shift ordinal, occurrence⟩) =
        some (rule.renumber shift) :=
      renumbers.otherUnshared.ruleFor_minted moved (congrArg (Option.map shift) own) otherSmall few
    rw [SyntheticTag.renumber_display rule.base_nonempty small few,
      renumbers.unshared.ruleFor_minted member own small few]
    exact there

theorem renameFor_renumber (renumbers : Renumbers shift table other) (known : table.Knows tag) :
    other.renameFor (SyntheticTag.renumber shift tag) = table.renameFor tag := by
  rw [renameFor, renameFor, renumbers.ruleFor_renumber known]
  cases table.ruleFor tag <;> rfl

/-- What is known of a tag does not depend on the number in it. -/
theorem describe_renumber (renumbers : Renumbers shift table other) (known : table.Knows tag) :
    other.describe (SyntheticTag.renumber shift tag) = table.describe tag := by
  rw [describe, describe, renumbers.ruleFor_renumber known, renumbers.glossary]
  cases found : table.ruleFor tag with
  | some rule => rfl
  | none =>
    -- A tag of a rule leads to it, so this one is not synthetic.
    have plain : SyntheticTag.read tag = none := by
      rcases known with plain | ⟨rule, member, ordinal, occurrence, own, few, rfl⟩
      · exact plain
      · have small := (renumbers.readable rule member ordinal own).1
        rw [renumbers.unshared.ruleFor_minted member own small few] at found
        contradiction
    rw [SyntheticTag.renumber_of_plain plain]
    rfl

end TagTable.Renumbers

end Constituency
