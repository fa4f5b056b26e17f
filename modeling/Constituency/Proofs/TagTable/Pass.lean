import Constituency.Proofs.TagTable.Ordinals

/-!
# Retagging as passes

A sweep splits a sentence at its place: what stands in front is settled, what stands behind is still
as it was before the sweep, so no rule sees what it wrote. That makes a sweep a pass over a list,
which is settled from its front, and retagging the passes of all rules in their order. Applications
are counted by number, so a pass counts on from the passes of the rules that have the same number,
and from one where there are none.
-/
namespace Constituency

/-! ### Passes -/

namespace NumberedRule

/--
A pass of a rule after `done` applications: the first window is replaced and the pass goes on behind
it, or the first token is kept, until the list is shorter than a window.
-/
def passFrom (rule : NumberedRule) (done : Nat) (tokens : List Token) : List Token :=
  if tokens.length < rule.span then tokens
  else
    have := rule.span_pos
    match rule.replace? (joinTokens (tokens.take rule.span)) with
    | some replacement =>
      rule.mint (done + 1) replacement ++ rule.passFrom (done + 1) (tokens.drop rule.span)
    | none => tokens.take 1 ++ rule.passFrom done (tokens.drop 1)
termination_by tokens.length

def pass (rule : NumberedRule) (tokens : List Token) : List Token := rule.passFrom 0 tokens

/-- How many windows a pass replaces. -/
def hits (rule : NumberedRule) (tokens : List Token) : Nat :=
  if tokens.length < rule.span then 0
  else
    have := rule.span_pos
    match rule.replace? (joinTokens (tokens.take rule.span)) with
    | some _ => rule.hits (tokens.drop rule.span) + 1
    | none => rule.hits (tokens.drop 1)
termination_by tokens.length

end NumberedRule

/-- A sentence between two passes. -/
structure Round where
  tokens : List Token
  /-- How often the rules of a number were applied. -/
  applied : Nat → Nat := fun _ => 0

/-- The pass of a rule counts on from the applications of its number. -/
def Round.after (round : Round) (rule : NumberedRule) : Round where
  tokens := rule.passFrom (rule.ordinal.elim 0 round.applied) round.tokens
  applied number :=
    round.applied number + if rule.ordinal = some number then rule.hits round.tokens else 0

/-! ### One step -/

namespace Sweep

/-- What a sweep has settled. -/
def front (sweep : Sweep) : List Token := sweep.tokens.take sweep.index

/-- What a sweep has still to see. -/
def rest (sweep : Sweep) : List Token := sweep.tokens.drop sweep.index

@[simp] theorem front_append_rest (sweep : Sweep) : sweep.front ++ sweep.rest = sweep.tokens :=
  List.take_append_drop ..

/-- How often the rules of a number were applied. -/
def applied (sweep : Sweep) (number : Nat) : Nat := (sweep.counts.lookup number).getD 0

end Sweep

namespace NumberedRule

variable {rule : NumberedRule} {first next last : Sweep}

theorem step_eq_none_iff : rule.step first = none ↔ first.rest.length < rule.span := by
  have positive := rule.span_pos
  have left : first.rest.length = first.tokens.length - first.index := List.length_drop ..
  unfold step
  split
  next short =>
    have : first.rest.length < rule.span := by omega
    simpa using this
  next enough =>
    have : ¬ first.rest.length < rule.span := by omega
    dsimp only
    split <;> simpa using this

/-- Where a whole window is left, it is replaced, or the first token of it is kept. -/
inductive Stepped (rule : NumberedRule) (first next : Sweep) : Prop
  | replaced {replacement : List Token}
    (found : rule.replace? (joinTokens (first.rest.take rule.span)) = some replacement)
    (front : next.front =
      first.front ++ rule.mint (rule.applications first.counts + 1) replacement)
    (rest : next.rest = first.rest.drop rule.span)
    (counts : next.counts = rule.record first.counts)
  | kept (missing : rule.replace? (joinTokens (first.rest.take rule.span)) = none)
    (front : next.front = first.front ++ first.rest.take 1)
    (rest : next.rest = first.rest.drop 1) (counts : next.counts = first.counts)

theorem stepped_of_step (stepped : rule.step first = some next) : Stepped rule first next := by
  unfold step at stepped
  split at stepped
  next => contradiction
  next enough =>
    have within : (first.tokens.take first.index).length = first.index :=
      List.length_take_of_le (by omega)
    dsimp only at stepped
    split at stepped
    next missing =>
      obtain rfl := Option.some.inj stepped
      exact .kept missing List.take_add (List.drop_drop ..).symm rfl
    next replacement found =>
      obtain rfl := Option.some.inj stepped
      have settled {written : List Token} :
          (first.tokens.take first.index ++ written).length = first.index + written.length := by
        rw [List.length_append, within]
      refine .replaced found (List.take_left' settled) ?_ rfl
      exact (List.drop_left' settled).trans (List.drop_drop ..).symm

/-! ### A whole sweep -/

theorem passFrom_of_short {done : Nat} {tokens : List Token} (short : tokens.length < rule.span) :
    rule.passFrom done tokens = tokens := by
  rw [passFrom, if_pos short]

theorem hits_of_short {tokens : List Token} (short : tokens.length < rule.span) :
    rule.hits tokens = 0 := by
  rw [hits, if_pos short]

theorem applications_eq (rule : NumberedRule) (state : Sweep) :
    rule.applications state.counts = rule.ordinal.elim 0 state.applied := by
  cases ordinal : rule.ordinal <;> simp [applications, Sweep.applied, ordinal]

theorem not_short_of_step (stepped : rule.step first = some next) :
    ¬ first.rest.length < rule.span := by
  rw [← step_eq_none_iff, stepped]
  exact Option.some_ne_none next

/-- A sweep is a pass over what it has not seen. -/
theorem tokens_sweep {state : Sweep} {done : Nat}
    (counted : rule.ordinal ≠ none → rule.applications state.counts = done) :
    (rule.sweep state).tokens = state.front ++ rule.passFrom done state.rest := by
  fun_induction rule.sweep state generalizing done with
  | case1 state halted =>
    rw [passFrom_of_short (step_eq_none_iff.mp halted), Sweep.front_append_rest]
  | case2 state next stepped _ ih =>
    rw [passFrom, if_neg (not_short_of_step stepped)]
    cases stepped_of_step stepped with
    | @replaced replacement found front rest counts =>
      -- Only a numbered rule counts, and only for a numbered rule does the count matter.
      have more (numbered : rule.ordinal ≠ none) : rule.applications next.counts = done + 1 := by
        rw [counts, applications_record numbered, counted numbered]
      have minted := mint_congr replacement fun numbered => congrArg (· + 1) (counted numbered)
      rw [ih more, front, rest, found, minted, List.append_assoc]
    | kept missing front rest counts =>
      rw [ih (counts ▸ counted), front, rest, missing, List.append_assoc]

/-- A sweep counts the windows that it replaces, for its own number. -/
theorem applied_sweep (rule : NumberedRule) (state : Sweep) (number : Nat) :
    (rule.sweep state).applied number =
      state.applied number + if rule.ordinal = some number then rule.hits state.rest else 0 := by
  fun_induction rule.sweep state with
  | case1 state halted => simp [hits_of_short (step_eq_none_iff.mp halted)]
  | case2 state next stepped _ ih =>
    rw [hits, if_neg (not_short_of_step stepped)]
    cases stepped_of_step stepped with
    | @replaced replacement found front rest counts =>
      have counted : next.applied number =
          state.applied number + if rule.ordinal = some number then 1 else 0 := by
        rw [Sweep.applied, counts, lookup_record, Sweep.applied]
      rw [ih, counted, rest, found]
      dsimp only
      split <;> omega
    | kept missing front rest counts =>
      have counted : next.applied number = state.applied number := by
        rw [Sweep.applied, counts, Sweep.applied]
      rw [ih, counted, rest, missing]

/-- The sweeps of some rules are their passes, each counted on from the ones before. -/
theorem foldl_sweep {rules : List NumberedRule} {state : Sweep} {round : Round}
    (tokens : state.tokens = round.tokens)
    (applied : ∀ number, state.applied number = round.applied number) :
    (rules.foldl (fun state rule => rule.sweep { state with index := 0 }) state).tokens =
      (rules.foldl Round.after round).tokens := by
  induction rules generalizing state round with
  | nil => exact tokens
  | cons rule rules ih =>
    have counted : rule.applications state.counts = rule.ordinal.elim 0 round.applied := by
      rw [applications_eq, funext applied]
    refine ih ?_ fun number => ?_
    · rw [Round.after, ← tokens]
      exact tokens_sweep fun _ => counted
    · rw [applied_sweep]
      change state.applied number + (if _ then rule.hits state.tokens else 0) = _
      rw [applied, tokens]
      rfl

/-- Rules that were not applied yet, all with numbers of their own, make their passes in turn. -/
theorem foldl_after {rules : List NumberedRule} {round : Round}
    (nodup : (rules.filterMap NumberedRule.ordinal).Nodup)
    (fresh : ∀ rule ∈ rules, rule.ordinal.elim 0 round.applied = 0) :
    (rules.foldl Round.after round).tokens =
      rules.foldl (fun tokens rule => rule.pass tokens) round.tokens := by
  induction rules generalizing round with
  | nil => rfl
  | cons rule rules ih =>
    have later : ∀ other ∈ rules, other.ordinal.elim 0 (round.after rule).applied = 0 := by
      intro other member
      have before := fresh other (List.mem_cons_of_mem _ member)
      cases own : other.ordinal with
      | none => rfl
      | some number =>
        -- A rule with the number of the first one would repeat that number in the table.
        have different := TagTable.ordinal_ne_of_nodup nodup member own
        simpa [Round.after, different, own] using before
    have nodup : (rules.filterMap NumberedRule.ordinal).Nodup :=
      nodup.sublist ((List.sublist_cons_self rule rules).filterMap _)
    rw [List.foldl_cons, List.foldl_cons, ih nodup later, Round.after,
      fresh rule (List.mem_cons_self ..), pass]

/-! ### The steps of a sweep -/

/-- A number of steps of a sweep. -/
inductive Steps (rule : NumberedRule) : Nat → Sweep → Sweep → Prop
  | none (state : Sweep) : Steps rule 0 state state
  | more {count : Nat} {first next last : Sweep} (stepped : rule.step first = some next)
    (later : Steps rule count next last) : Steps rule (count + 1) first last

end NumberedRule

/-- A part of a sentence before and after a sweep. -/
inductive Piece where
  | kept (token : Token)
  | replaced (window written : List Token)

namespace Piece

def before : Piece → List Token
  | .kept token => [token]
  | .replaced window _ => window

def after : Piece → List Token
  | .kept token => [token]
  | .replaced _ written => written

/-- Whether what was written is what the rule puts in the place of a window. -/
def IsOf (rule : NumberedRule) : Piece → Prop
  | .kept _ => True
  | .replaced window written => window.length = rule.span ∧
    ∃ occurrence replacement, rule.replace? (joinTokens window) = some replacement ∧
      written = rule.mint occurrence replacement

end Piece

namespace NumberedRule

variable {rule : NumberedRule} {first next last : Sweep}

/-- One step settles one piece of what it had not seen. -/
theorem piece_of_step (stepped : rule.step first = some next) :
    ∃ piece : Piece, piece.IsOf rule ∧ first.rest = piece.before ++ next.rest ∧
      next.front = first.front ++ piece.after := by
  have enough : rule.span ≤ first.rest.length := by
    refine Nat.le_of_not_lt fun short => ?_
    exact absurd (step_eq_none_iff.mpr short) (by simp [stepped])
  cases stepped_of_step stepped with
  | @replaced replacement found front rest counts =>
    have split := (List.take_append_drop rule.span first.rest).symm
    exact ⟨.replaced (first.rest.take rule.span) _,
      ⟨List.length_take_of_le enough, _, replacement, found, rfl⟩, rest ▸ split, front⟩
  | kept missing front rest counts =>
    have some : 0 < first.rest.length := Nat.lt_of_lt_of_le rule.span_pos enough
    obtain ⟨token, others, seen⟩ := List.exists_cons_of_length_pos some
    refine ⟨.kept token, trivial, ?_, ?_⟩
    · rw [rest, seen]
      rfl
    · rw [front, seen]
      rfl

theorem Steps.pieces {count : Nat} (run : Steps rule count first last) :
    ∃ pieces : List Piece, (∀ piece ∈ pieces, piece.IsOf rule) ∧
      first.rest = pieces.flatMap Piece.before ++ last.rest ∧
      last.front = first.front ++ pieces.flatMap Piece.after := by
  induction run with
  | none state => exact ⟨[], by simp⟩
  | more stepped later ih =>
    obtain ⟨piece, own, unseen, settled⟩ := piece_of_step stepped
    obtain ⟨pieces, all, unseen', settled'⟩ := ih
    refine ⟨piece :: pieces, List.forall_mem_cons.mpr ⟨own, all⟩, ?_, ?_⟩
    · rw [unseen, unseen', List.flatMap_cons, List.append_assoc]
    · rw [settled', settled, List.flatMap_cons, List.append_assoc]

end NumberedRule

namespace TagTable

open NumberedRule

theorem retag_eq_foldl_after (table : TagTable) (tokens : List Token) :
    table.retag tokens = (table.rules.foldl Round.after { tokens }).tokens :=
  foldl_sweep rfl fun _ => rfl

theorem Unshared.retag_eq_foldl {table : TagTable} (unshared : table.Unshared)
    (tokens : List Token) :
    table.retag tokens = table.rules.foldl (fun tokens rule => rule.pass tokens) tokens := by
  rw [retag_eq_foldl_after]
  exact foldl_after unshared fun rule _ => by cases rule.ordinal <;> rfl

end TagTable

end Constituency
