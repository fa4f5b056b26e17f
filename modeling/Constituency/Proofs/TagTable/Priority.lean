import Constituency.Accepted
import Constituency.Proofs.TagTable.Ordinals

/-!
# The order in which rules are applied

A table applies its rules by priority: a rule of a larger span first, of equal spans the one with
the longer pattern, and of rules that agree in both the one that was registered first. No two
registered rules are equal in all three, so there is just one such order. The place of
registration only breaks ties, so rules that differ in span or length may change places.
-/
namespace Constituency

/-- How many characters the pattern of a rule has. -/
def TagRule.patternLength (rule : TagRule) : Nat := rule.pattern.source.length

namespace NumberedRule

/-- Whether a rule is applied before another one; each stands with its place of registration. -/
def Precedes (first second : NumberedRule × Nat) : Prop :=
  second.1.span < first.1.span ∨ first.1.span = second.1.span ∧
    (second.1.patternLength < first.1.patternLength ∨
      first.1.patternLength = second.1.patternLength ∧ first.2 < second.2)

theorem outranks_iff {rule other : NumberedRule} : rule.outranks other = true ↔
    other.span < rule.span ∨
      rule.span = other.span ∧ other.patternLength < rule.patternLength := by
  simp [outranks, TagRule.patternLength]

/-! ### Priority is a strict total order -/

namespace Precedes

variable {first second third : NumberedRule × Nat}

theorem asymm (early : Precedes first second) : ¬ Precedes second first := by
  unfold Precedes at *
  omega

theorem trans (early : Precedes first second) (late : Precedes second third) :
    Precedes first third := by
  unfold Precedes at *
  omega

theorem total (apart : first.2 ≠ second.2) : Precedes first second ∨ Precedes second first := by
  unfold Precedes
  omega

theorem of_outranks (higher : first.1.outranks second.1 = true) : Precedes first second := by
  have := outranks_iff.mp higher
  unfold Precedes
  omega

/-- Of rules that do not outrank each other, the earlier one is applied first. -/
theorem of_not_outranks (notHigher : ¬ second.1.outranks first.1 = true)
    (earlier : first.2 < second.2) : Precedes first second := by
  rw [outranks_iff] at notHigher
  unfold Precedes
  omega

end Precedes

/-! ### Sorting -/

/-- A rule that is registered before all others is put at its place among them. -/
theorem exists_insert_eq (rule : NumberedRule) (place : Nat) {order : List (NumberedRule × Nat)}
    (sorted : order.Pairwise Precedes) (later : ∀ other ∈ order, place < other.2) :
    ∃ longer : List (NumberedRule × Nat), longer.map Prod.fst = insert rule (order.map Prod.fst) ∧
      longer.Perm ((rule, place) :: order) ∧ longer.Pairwise Precedes := by
  induction order with
  | nil => exact ⟨[(rule, place)], rfl, .refl _, List.pairwise_singleton _ _⟩
  | cons first rest ih =>
    obtain ⟨before, sortedRest⟩ := List.pairwise_cons.mp sorted
    obtain ⟨laterFirst, laterRest⟩ := List.forall_mem_cons.mp later
    rw [List.map_cons, insert]
    split
    next higher =>
      -- The first rule stays in front of the new one and of all others.
      obtain ⟨longer, same, perm, sortedLonger⟩ := ih sortedRest laterRest
      refine ⟨first :: longer, by rw [List.map_cons, same],
        (perm.cons first).trans (.swap _ _ _), List.pairwise_cons.mpr ⟨?_, sortedLonger⟩⟩
      intro other member
      rcases List.mem_cons.mp (perm.mem_iff.mp member) with rfl | old
      · exact .of_outranks higher
      · exact before other old
    next notHigher =>
      have front : Precedes (rule, place) first := .of_not_outranks notHigher laterFirst
      refine ⟨(rule, place) :: first :: rest, rfl, .refl _, List.pairwise_cons.mpr ⟨?_, sorted⟩⟩
      intro other member
      rcases List.mem_cons.mp member with rfl | old
      · exact front
      · exact front.trans (before other old)

theorem exists_sort_eq (rules : List NumberedRule) (start : Nat) :
    ∃ order : List (NumberedRule × Nat), order.map Prod.fst = sort rules ∧
      order.Perm (rules.zipIdx start) ∧ order.Pairwise Precedes := by
  induction rules generalizing start with
  | nil => exact ⟨[], rfl, .refl _, .nil⟩
  | cons rule rest ih =>
    obtain ⟨order, same, perm, sorted⟩ := ih (start + 1)
    have later : ∀ other ∈ order, start < other.2 := fun other member =>
      List.le_snd_of_mem_zipIdx (perm.mem_iff.mp member)
    obtain ⟨longer, put, permLonger, sortedLonger⟩ := exists_insert_eq rule start sorted later
    refine ⟨longer, ?_, permLonger.trans (perm.cons _), sortedLonger⟩
    rw [put, same]
    rfl

/-- Where rules stand by priority, places tell which of two comes first. -/
theorem lt_iff_precedes {order : List (NumberedRule × Nat)} (sorted : order.Pairwise Precedes)
    {p q : Nat} {first second : NumberedRule × Nat} (here : order[p]? = some first)
    (there : order[q]? = some second) : p < q ↔ Precedes first second := by
  obtain ⟨pInside, rfl⟩ := List.getElem?_eq_some_iff.mp here
  obtain ⟨qInside, rfl⟩ := List.getElem?_eq_some_iff.mp there
  have ordered := List.pairwise_iff_getElem.mp sorted
  constructor
  · exact fun less => ordered p q pInside qInside less
  · intro precedes
    rcases Nat.lt_trichotomy p q with less | rfl | more
    · exact less
    · exact absurd precedes precedes.asymm
    · exact absurd precedes (ordered q p qInside pInside more).asymm

/-! ### Exchanging rules -/

theorem insert_comm_of_outranks {first second : NumberedRule}
    (higher : first.outranks second = true) (rules : List NumberedRule) :
    insert first (insert second rules) = insert second (insert first rules) := by
  have lower : ¬ second.outranks first = true := by
    rw [outranks_iff] at higher ⊢
    omega
  induction rules with
  | nil => simp [insert, higher, lower]
  | cons other rest ih =>
    by_cases above : other.outranks first = true
    · have aboveBoth : other.outranks second = true := by
        rw [outranks_iff] at above higher ⊢
        omega
      simp [insert, above, aboveBoth, ih]
    · by_cases between : other.outranks second = true
      · simp [insert, above, between, higher]
      · simp [insert, above, between, higher, lower]

/-- Two rules that differ in rank can be put among others in either order. -/
theorem insert_comm {first second : NumberedRule}
    (apart : first.span ≠ second.span ∨ first.patternLength ≠ second.patternLength)
    (rules : List NumberedRule) :
    insert first (insert second rules) = insert second (insert first rules) := by
  by_cases higher : first.outranks second = true
  · exact insert_comm_of_outranks higher rules
  · have other : second.outranks first = true := by
      rw [outranks_iff] at higher ⊢
      omega
    exact (insert_comm_of_outranks other rules).symm

/-- Numbers have no say in where a rule is put. -/
theorem toTagRule_insert {rule other : NumberedRule} {rules others : List NumberedRule}
    (same : rule.toTagRule = other.toTagRule)
    (all : rules.map toTagRule = others.map toTagRule) :
    (insert rule rules).map toTagRule = (insert other others).map toTagRule := by
  induction rules generalizing others with
  | nil =>
    obtain rfl := List.map_eq_nil_iff.mp all.symm
    simp [insert, same]
  | cons first rest ih =>
    obtain ⟨twin, twins, rfl, alike, allTwins⟩ := List.map_eq_cons_iff.mp all.symm
    have rank : first.outranks rule = twin.outranks other := by
      simp only [outranks, same, alike]
    rw [insert, insert, rank]
    split
    · rw [List.map_cons, List.map_cons, alike, ih allTwins.symm]
    · simp [same, alike, allTwins]

theorem toTagRule_sort {rules others : List NumberedRule}
    (all : rules.map toTagRule = others.map toTagRule) :
    (sort rules).map toTagRule = (sort others).map toTagRule := by
  induction rules generalizing others with
  | nil =>
    obtain rfl := List.map_eq_nil_iff.mp all.symm
    rfl
  | cons rule rest ih =>
    obtain ⟨twin, twins, rfl, alike, allTwins⟩ := List.map_eq_cons_iff.mp all.symm
    exact toTagRule_insert alike.symm (ih allTwins.symm)

/-- Neighbours that differ in rank are sorted alike in either order. -/
theorem sort_swap (first second : NumberedRule)
    (apart : first.span ≠ second.span ∨ first.patternLength ≠ second.patternLength)
    (front back : List NumberedRule) :
    sort (front ++ first :: second :: back) = sort (front ++ second :: first :: back) := by
  simp only [sort, List.foldr_append, List.foldr_cons]
  rw [insert_comm apart]

end NumberedRule

/-! ### Tables -/

def TagEntry.isRule : TagEntry → Bool
  | .rule _ => true
  | _ => false

namespace TagTable

open NumberedRule (Precedes)

/-- Links and glossary entries are no rules. -/
theorem rulesOf_filter_isRule (entries : List TagEntry) :
    rulesOf (entries.filter TagEntry.isRule) = rulesOf entries := by
  induction entries with
  | nil => rfl
  | cons entry rest ih =>
    cases entry with
    | rule rule => exact congrArg (rule :: ·) ih
    | link name address => exact ih
    | pos tag entry => exact ih

/-- Entries that are no rules may stand between two rules. -/
theorem rulesOf_between {between : List TagEntry}
    (others : ∀ entry ∈ between, entry.isRule = false) (front back : List TagEntry)
    (first second : NumberedRule) :
    rulesOf (front ++ .rule first :: (between ++ .rule second :: back)) =
      rulesOf front ++ first :: second :: rulesOf back := by
  have none : rulesOf between = [] := by
    rw [← rulesOf_filter_isRule, List.filter_eq_nil_iff.mpr fun entry member => by
      simp [others entry member]]
    rfl
  have inner : rulesOf (.rule first :: (between ++ .rule second :: back)) =
      first :: rulesOf (between ++ .rule second :: back) := rfl
  rw [rulesOf_append, inner, rulesOf_append, none]
  rfl

/-- In which order rules are applied is settled by the rules alone. -/
theorem toTagRule_rules_build (entries : List TagEntry) (next : Nat) :
    (build entries next).1.rules.map NumberedRule.toTagRule =
      (NumberedRule.sort (rulesOf entries)).map NumberedRule.toTagRule :=
  NumberedRule.toTagRule_sort (toTagRule_number _ _)

/--
Whether rules are applied just as often as they are registered, and one before the other exactly if
its priority is higher.
-/
def AppliesByPriority (registered applied : List NumberedRule) : Prop :=
  ∃ order : List (NumberedRule × Nat), order.map Prod.fst = applied ∧
    order.Perm registered.zipIdx ∧
    ∀ (p q : Nat) first second, order[p]? = some first → order[q]? = some second →
      (p < q ↔ Precedes first second)

/--
A table applies the registered rules by priority. Links and glossary entries make no difference,
nor does the order of two rules that differ in span or pattern length, with no rule registered
between them.
-/
theorem rules_build_byPriority (entries : List TagEntry) (next : Nat) :
    AppliesByPriority (number (rulesOf entries) next).1 (build entries next).1.rules ∧
    (number (rulesOf entries) next).1.map NumberedRule.toTagRule =
      (rulesOf entries).map NumberedRule.toTagRule ∧
    (build (entries.filter TagEntry.isRule) next).1.rules = (build entries next).1.rules ∧
    ∀ front between back first second,
      entries = front ++ .rule first :: (between ++ .rule second :: back) →
      (∀ entry ∈ between, entry.isRule = false) →
      first.span ≠ second.span ∨ first.patternLength ≠ second.patternLength →
      (build (front ++ .rule second :: (between ++ .rule first :: back)) next).1.rules.map
          NumberedRule.toTagRule =
        (build entries next).1.rules.map NumberedRule.toTagRule := by
  refine ⟨?_, toTagRule_number _ _, ?_, ?_⟩
  · obtain ⟨order, same, perm, sorted⟩ :=
      NumberedRule.exists_sort_eq (number (rulesOf entries) next).1 0
    exact ⟨order, same, perm, fun p q first second here there =>
      NumberedRule.lt_iff_precedes sorted here there⟩
  · simp only [build, assemble, rulesOf_filter_isRule]
  · rintro front between back first second rfl others apart
    rw [toTagRule_rules_build, toTagRule_rules_build, rulesOf_between others,
      rulesOf_between others, NumberedRule.sort_swap first second apart]

/-- A rule for one token, and one for two tokens. -/
def nounRule : TagRule := .of "밥:NNG" "밥:N"

def phraseRule : TagRule := .of "밥:NNG;을:JKO" "밥을:NP"

theorem rules_build_byPriority_phrase : nounRule.span ≠ phraseRule.span ∧
    (build [.rule phraseRule, .link "k" "example/", .rule nounRule] 1).1.rules.map
        NumberedRule.toTagRule =
      (build [.rule nounRule, .link "k" "example/", .rule phraseRule] 1).1.rules.map
        NumberedRule.toTagRule :=
  have apart : nounRule.span ≠ phraseRule.span := by decide +kernel
  ⟨apart, (rules_build_byPriority _ 1).2.2.2 [] [.link "k" "example/"] [] nounRule phraseRule rfl
    (by decide) (.inl apart)⟩

end TagTable

end Constituency
