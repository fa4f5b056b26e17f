import Constituency.TagTable.Basic

/-!
# Retagging

A tag table rewrites a sentence in place. One rule after the other goes over the sentence once, from
left to right: where it replaces the window at its place, the new tokens are put where the window
was and the rule goes on behind them, otherwise it moves on by one token. The applications of a
numbered rule are counted for the whole sentence, and the last token of each gets a tag that tells
it apart.
-/
namespace Constituency

/-- A sentence under the rules of a table. -/
structure Sweep where
  tokens : List Token
  /-- The place where the next window begins. -/
  index : Nat := 0
  /-- How often numbered rules were applied, by number, the latest count first. -/
  counts : List (Nat × Nat) := []

namespace NumberedRule

/-- How often a rule was applied; this is only known of numbered rules. -/
def applications (rule : NumberedRule) (counts : List (Nat × Nat)) : Nat :=
  match rule.ordinal with
  | some ordinal => (counts.lookup ordinal).getD 0
  | none => 0

/-- Counts one more application of a numbered rule. -/
def record (rule : NumberedRule) (counts : List (Nat × Nat)) : List (Nat × Nat) :=
  match rule.ordinal with
  | some ordinal => (ordinal, rule.applications counts + 1) :: counts
  | none => counts

theorem applications_record {rule : NumberedRule} {counts : List (Nat × Nat)}
    (numbered : rule.ordinal ≠ none) :
    rule.applications (rule.record counts) = rule.applications counts + 1 := by
  cases ordinal : rule.ordinal with
  | none => contradiction
  | some ordinal => simp [applications, record, *]

theorem lookup_record (rule : NumberedRule) (counts : List (Nat × Nat)) (number : Nat) :
    ((rule.record counts).lookup number).getD 0 =
      (counts.lookup number).getD 0 + if rule.ordinal = some number then 1 else 0 := by
  cases ordinal : rule.ordinal with
  | none => simp [record, ordinal]
  | some own =>
    by_cases same : number = own
    · simp [record, applications, ordinal, same]
    · have apart : (number == own) = false := beq_eq_false_iff_ne.mpr same
      simp [record, ordinal, List.lookup_cons, apart, Ne.symm same]

/-- Gives the last token of the `occurrence`-th application of a numbered rule its tag. -/
def mint (rule : NumberedRule) (occurrence : Nat) (tokens : List Token) : List Token :=
  match rule.ordinal, tokens.getLast? with
  | some ordinal, some last =>
    let tag : SyntheticTag := ⟨rule.base, ordinal, occurrence⟩
    tokens.dropLast ++ [{ last with tag := tag.display }]
  | _, _ => tokens

theorem mint_append (rule : NumberedRule) (occurrence : Nat) (tokens : List Token) (last : Token) :
    rule.mint occurrence (tokens ++ [last]) = tokens ++ [match rule.ordinal with
      | some ordinal => { last with tag := SyntheticTag.display ⟨rule.base, ordinal, occurrence⟩ }
      | none => last] := by
  cases ordinal : rule.ordinal <;> simp [mint, ordinal]

/-- What is not numbered bears no trace of the occurrence. -/
theorem mint_congr {rule : NumberedRule} {occurrence other : Nat} (tokens : List Token)
    (same : rule.ordinal ≠ none → occurrence = other) :
    rule.mint occurrence tokens = rule.mint other tokens := by
  cases ordinal : rule.ordinal with
  | none => simp [mint, ordinal]
  | some _ => rw [same (by simp [ordinal])]

/-- Applies a rule to the window at its place, or moves on; none where no window is left. -/
def step (rule : NumberedRule) (sweep : Sweep) : Option Sweep :=
  if sweep.tokens.length < sweep.index + rule.span then none
  else
    let window := (sweep.tokens.drop sweep.index).take rule.span
    match rule.replace? (joinTokens window) with
    | none => some { sweep with index := sweep.index + 1 }
    | some replacement =>
      let written := rule.mint (rule.applications sweep.counts + 1) replacement
      some {
        tokens := sweep.tokens.take sweep.index ++ written ++
          sweep.tokens.drop (sweep.index + rule.span)
        index := sweep.index + written.length
        counts := rule.record sweep.counts }

/-- Whatever a rule writes, fewer tokens are left behind its place. -/
theorem step_progress {rule : NumberedRule} {sweep next : Sweep}
    (stepped : rule.step sweep = some next) :
    next.tokens.length - next.index < sweep.tokens.length - sweep.index := by
  have positive := rule.span_pos
  unfold step at stepped
  split at stepped
  next => contradiction
  next enough =>
    dsimp only at stepped
    split at stepped
    next =>
      obtain rfl := Option.some.inj stepped
      dsimp only
      omega
    next =>
      obtain rfl := Option.some.inj stepped
      simp only [List.length_append, List.length_take, List.length_drop]
      omega

/-- Goes over a sentence with a rule until no window is left. -/
def sweep (rule : NumberedRule) (state : Sweep) : Sweep :=
  match stepped : rule.step state with
  | none => state
  | some next =>
    have := step_progress stepped
    rule.sweep next
termination_by state.tokens.length - state.index

end NumberedRule

/-- Retags a sentence with one sweep of each rule, in the order of the table. -/
def TagTable.retag (table : TagTable) (tokens : List Token) : List Token :=
  let start : Sweep := { tokens }
  (table.rules.foldl (fun state rule => rule.sweep { state with index := 0 }) start).tokens

end Constituency
