import Constituency.Proofs.TagTable.Pass
import Mathlib.Data.List.Infix

/-!
# Tables that settle a sentence at once

Retagging a sentence twice need not be the same as retagging it once: a rule may match what another
rule wrote, or what it wrote itself. It is the same where the rules write final tokens only, and
replace no window that holds one. A window without a final token that is there behind a pass was
there before it. So a rule that has made its pass finds nothing more to replace, the passes of other
rules leave it without work, and behind the last one no rule has any.
-/
namespace Constituency

namespace NumberedRule

/-- The rule replaces no window with a final token, and what it writes is final. -/
structure Settles (rule : NumberedRule) (isFinal : Token → Prop) : Prop where
  sees {window replacement : List Token} :
    rule.replace? (joinTokens window) = some replacement → ∀ token ∈ window, ¬ isFinal token
  writes {window replacement : List Token} {occurrence : Nat} :
    rule.replace? (joinTokens window) = some replacement →
      ∀ token ∈ rule.mint occurrence replacement, isFinal token

/-- The rule finds no window to replace. -/
def IsQuiet (rule : NumberedRule) (tokens : List Token) : Prop :=
  ∀ window, window <:+: tokens → window.length = rule.span →
    rule.replace? (joinTokens window) = none

variable {rule other : NumberedRule} {isFinal : Token → Prop} {done : Nat}
  {window tokens : List Token}

/-! ### A rule without work -/

theorem passFrom_of_isQuiet (quiet : rule.IsQuiet tokens) : rule.passFrom done tokens = tokens := by
  fun_induction rule.passFrom done tokens with
  | case1 => rfl
  | case2 done tokens long _ replacement found =>
    have whole : (tokens.take rule.span).length = rule.span :=
      List.length_take_of_le (Nat.le_of_not_lt long)
    have none := quiet _ (List.take_prefix ..).isInfix whole
    simp [found] at none
  | case3 done tokens long _ missing ih =>
    have later : rule.IsQuiet (tokens.drop 1) := fun window inside length =>
      quiet window (inside.trans (List.drop_suffix ..).isInfix) length
    rw [ih later, List.take_append_drop]

/-! ### Windows behind a pass -/

/-- A window without a final token that begins with what begins with a final token is empty. -/
theorem eq_nil_of_prefix_append {front back : List Token} (some : front ≠ [])
    (final : ∀ token ∈ front, isFinal token) (fresh : ∀ token ∈ window, ¬ isFinal token)
    (begins : window <+: front ++ back) : window = [] := by
  cases window with
  | nil => rfl
  | cons token window =>
    obtain ⟨first, front, rfl⟩ := List.exists_cons_of_ne_nil some
    obtain rfl := (List.cons_prefix_cons.mp begins).1
    exact absurd (final token (List.mem_cons_self ..)) (fresh token (List.mem_cons_self ..))

/-- A window without a final token stands behind all final tokens at the beginning. -/
theorem infix_of_infix_append {front back : List Token} (final : ∀ token ∈ front, isFinal token)
    (fresh : ∀ token ∈ window, ¬ isFinal token) (inside : window <:+: front ++ back) :
    window <:+: back := by
  induction front with
  | nil => exact inside
  | cons token front ih =>
    rcases List.infix_cons_iff.mp inside with begins | inside
    · have nothing : window = [] := eq_nil_of_prefix_append (by simp) final fresh begins
      exact nothing ▸ List.nil_infix
    · exact ih (fun other member => final other (List.mem_cons_of_mem _ member)) inside

theorem mint_ne_nil {occurrence : Nat} {replacement : List Token} (some : replacement ≠ []) :
    rule.mint occurrence replacement ≠ [] := by
  obtain ⟨front, last, rfl⟩ := (List.eq_nil_or_concat' replacement).resolve_left some
  simp [mint_append]

theorem prefix_of_prefix_passFrom (settles : rule.Settles isFinal)
    (fresh : ∀ token ∈ window, ¬ isFinal token) (begins : window <+: rule.passFrom done tokens) :
    window <+: tokens := by
  fun_induction rule.passFrom done tokens generalizing window with
  | case1 => exact begins
  | case2 done tokens long _ replacement found =>
    have nothing : window = [] := eq_nil_of_prefix_append
      (mint_ne_nil (TagRule.replacement_ne_nil found)) (settles.writes found) fresh begins
    exact nothing ▸ List.nil_prefix
  | case3 done tokens long positive missing ih =>
    obtain ⟨token, others, rfl⟩ :=
      List.exists_cons_of_length_pos (Nat.lt_of_lt_of_le positive (Nat.le_of_not_lt long))
    cases window with
    | nil => exact List.nil_prefix
    | cons first window =>
      obtain ⟨same, begins⟩ := List.cons_prefix_cons.mp begins
      have fresh := (List.forall_mem_cons.mp fresh).2
      exact List.cons_prefix_cons.mpr ⟨same, ih fresh begins⟩

/--
A window without a final token that is there behind a pass was there before it, and the rule did not
replace it.
-/
theorem window_of_infix_passFrom (settles : rule.Settles isFinal)
    (fresh : ∀ token ∈ window, ¬ isFinal token) (inside : window <:+: rule.passFrom done tokens) :
    window <:+: tokens ∧
      (window.length = rule.span → rule.replace? (joinTokens window) = none) := by
  fun_induction rule.passFrom done tokens with
  | case1 done tokens short =>
    refine ⟨inside, fun whole => ?_⟩
    have bounded := inside.length_le
    omega
  | case2 done tokens long _ replacement found ih =>
    obtain ⟨behind, quiet⟩ := ih (infix_of_infix_append (settles.writes found) fresh inside)
    exact ⟨behind.trans (List.drop_suffix ..).isInfix, quiet⟩
  | case3 done tokens long positive missing ih =>
    obtain ⟨token, others, rfl⟩ :=
      List.exists_cons_of_length_pos (Nat.lt_of_lt_of_le positive (Nat.le_of_not_lt long))
    have kept : rule.passFrom done (token :: others) = token :: rule.passFrom done others := by
      rw [passFrom, if_neg long, missing]
      rfl
    change window <:+: token :: rule.passFrom done others at inside
    rcases List.infix_cons_iff.mp inside with begins | inside
    · -- The window stands at the place of the rule, and was tried there.
      have begins := prefix_of_prefix_passFrom settles fresh (kept ▸ begins)
      refine ⟨begins.isInfix, fun whole => ?_⟩
      rwa [List.prefix_iff_eq_take.mp begins, whole]
    · obtain ⟨behind, quiet⟩ := ih inside
      exact ⟨behind.trans (List.suffix_cons ..).isInfix, quiet⟩

/-! ### Rules that stay without work -/

theorem isQuiet_passFrom (settles : rule.Settles isFinal) :
    rule.IsQuiet (rule.passFrom done tokens) := by
  intro window inside whole
  refine Option.eq_none_iff_forall_ne_some.mpr fun replacement found => ?_
  have missing := (window_of_infix_passFrom settles (settles.sees found) inside).2 whole
  rw [missing] at found
  contradiction

theorem IsQuiet.passFrom (quiet : rule.IsQuiet tokens) (sees : rule.Settles isFinal)
    (settles : other.Settles isFinal) : rule.IsQuiet (other.passFrom done tokens) := by
  intro window inside whole
  refine Option.eq_none_iff_forall_ne_some.mpr fun replacement found => ?_
  have before := (window_of_infix_passFrom settles (sees.sees found) inside).1
  rw [quiet window before whole] at found
  contradiction

/-- Behind the passes of some rules all of them are quiet, and those that were so before. -/
theorem isQuiet_foldl_after {rules : List NumberedRule} {round : Round}
    (settles : ∀ rule ∈ rules, rule.Settles isFinal) (own : rule.Settles isFinal)
    (listed : rule ∈ rules ∨ rule.IsQuiet round.tokens) :
    rule.IsQuiet (rules.foldl Round.after round).tokens := by
  induction rules generalizing round with
  | nil => exact listed.resolve_left List.not_mem_nil
  | cons first rules ih =>
    obtain ⟨here, settles⟩ := List.forall_mem_cons.mp settles
    refine ih settles ?_
    rcases listed with listed | quiet
    · rcases List.mem_cons.mp listed with rfl | later
      · exact .inr (isQuiet_passFrom own)
      · exact .inl later
    · exact .inr (quiet.passFrom own here)

theorem foldl_after_of_isQuiet {rules : List NumberedRule} {round : Round}
    (quiet : ∀ rule ∈ rules, rule.IsQuiet round.tokens) :
    (rules.foldl Round.after round).tokens = round.tokens := by
  induction rules generalizing round with
  | nil => rfl
  | cons first rules ih =>
    obtain ⟨here, later⟩ := List.forall_mem_cons.mp quiet
    have same : (round.after first).tokens = round.tokens := passFrom_of_isQuiet here
    rw [List.foldl_cons, ih (same ▸ later), same]

end NumberedRule

namespace TagTable

open NumberedRule

/-- What the passes keep of two sentences, with rules that correspond, retagging keeps of them. -/
theorem Unshared.retag_relates {table other : TagTable} {change : NumberedRule → NumberedRule}
    {R : List Token → List Token → Prop} {tokens others : List Token}
    (unshared : table.Unshared) (otherUnshared : other.Unshared)
    (rules : other.rules = table.rules.map change)
    (step : ∀ rule ∈ table.rules, ∀ tokens others, R tokens others →
      R (rule.pass tokens) ((change rule).pass others))
    (initial : R tokens others) : R (table.retag tokens) (other.retag others) := by
  rw [unshared.retag_eq_foldl, otherUnshared.retag_eq_foldl, rules, List.foldl_map]
  exact List.foldl_rel initial step

/-- What the passes keep of a sentence, whatever they count, retagging keeps of it. -/
theorem retag_induction {table : TagTable} {P : List Token → Prop} {tokens : List Token}
    (step : ∀ rule ∈ table.rules, ∀ done tokens, P tokens → P (rule.passFrom done tokens))
    (initial : P tokens) : P (table.retag tokens) := by
  rw [retag_eq_foldl_after]
  refine List.foldlRecOn (motive := fun round : Round => P round.tokens) _ _ initial ?_
  exact fun round before rule member => step rule member _ round.tokens before

/-- A table whose rules all settle what they rewrite leaves nothing to do for a second time. -/
theorem retag_retag_of_settles {table : TagTable} {isFinal : Token → Prop}
    (settles : ∀ rule ∈ table.rules, rule.Settles isFinal) (tokens : List Token) :
    table.retag (table.retag tokens) = table.retag tokens := by
  have quiet : ∀ rule ∈ table.rules, rule.IsQuiet (table.retag tokens) := by
    intro rule member
    rw [retag_eq_foldl_after]
    exact isQuiet_foldl_after settles (settles rule member) (.inl member)
  rw [retag_eq_foldl_after, foldl_after_of_isQuiet quiet]

end TagTable

end Constituency
