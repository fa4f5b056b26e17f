import Constituency.Accepted
import Constituency.Grammar.Equality
import Constituency.Proofs.Parser.Account
import Mathlib.Data.List.Forall2
import Mathlib.Logic.Relation

/-!
# Groups do not matter

A sequence inside a sequence does what its items do in its place, and a choice inside a choice what
its alternatives do: the first longest match of some of the alternatives is the only one of them
that can be the first longest of all. A group of one is what it holds. So the bodies of a grammar
can be regrouped anywhere, and a parser goes through the very same states.
-/
namespace Constituency

/-! ### Other groups in a body -/

section Regroups

variable {ρ : Type}

/-- One group is opened, anywhere in a body. -/
inductive Expr.Regroups : Expr ρ → Expr ρ → Prop where
  | items (front inner back : List (Expr ρ)) :
      Regroups (.seq (front ++ .seq inner :: back)) (.seq (front ++ inner ++ back))
  | alternatives (front inner back : List (Expr ρ)) :
      Regroups (.longest (front ++ .longest inner :: back)) (.longest (front ++ inner ++ back))
  | onlyItem (body : Expr ρ) : Regroups (.seq [body]) body
  | onlyAlternative (body : Expr ρ) : Regroups (.longest [body]) body
  | inSeq (front back : List (Expr ρ)) {body other : Expr ρ} (inside : Regroups body other) :
      Regroups (.seq (front ++ body :: back)) (.seq (front ++ other :: back))
  | inLongest (front back : List (Expr ρ)) {body other : Expr ρ} (inside : Regroups body other) :
      Regroups (.longest (front ++ body :: back)) (.longest (front ++ other :: back))
  | inOpt {body other : Expr ρ} (inside : Regroups body other) :
      Regroups (.opt body) (.opt other)
  | inStar {body other : Expr ρ} (inside : Regroups body other) :
      Regroups (.star body) (.star other)
  | inPlus {body other : Expr ρ} (inside : Regroups body other) :
      Regroups (.plus body) (.plus other)

theorem Expr.referencesAll_append (front back : List (Expr ρ)) :
    referencesAll (front ++ back) = referencesAll front ++ referencesAll back := by
  induction front with
  | nil => rfl
  | cons item front ih => rw [List.cons_append, referencesAll, ih, referencesAll, List.append_assoc]

theorem Expr.Regroups.references_eq {body other : Expr ρ} (regroups : body.Regroups other) :
    other.references = body.references := by
  induction regroups with
  | items front inner back => simp [references, referencesAll, referencesAll_append]
  | alternatives front inner back => simp [references, referencesAll, referencesAll_append]
  | onlyItem body => simp [references, referencesAll]
  | onlyAlternative body => simp [references, referencesAll]
  | inSeq front back inside ih => simp [references, referencesAll, referencesAll_append, ih]
  | inLongest front back inside ih => simp [references, referencesAll, referencesAll_append, ih]
  | inOpt inside ih => exact ih
  | inStar inside ih => exact ih
  | inPlus inside ih => exact ih

end Regroups

/-- A production whose body has any number of its groups opened. -/
structure Rule.Regroups (rule other : Rule Ref) : Prop where
  name : other.name = rule.name
  body : Relation.ReflTransGen Expr.Regroups rule.body other.body

namespace Rule.Regroups

variable {rules others : List (Rule Ref)}

theorem references_eq {rule other : Rule Ref} (regroups : rule.Regroups other) :
    other.body.references = rule.body.references := by
  obtain ⟨-, opened⟩ := regroups
  generalize other.body = body at opened
  induction opened with
  | refl => rfl
  | tail _ last ih => rw [last.references_eq, ih]

theorem names_eq (regroups : List.Forall₂ Rule.Regroups rules others) :
    others.map Rule.name = rules.map Rule.name := by
  induction regroups with
  | nil => rfl
  | cons first _ ih => rw [List.map_cons, List.map_cons, first.name, ih]

theorem exists_of_mem (regroups : List.Forall₂ Rule.Regroups rules others) {other : Rule Ref}
    (member : other ∈ others) : ∃ rule ∈ rules, rule.Regroups other := by
  obtain ⟨id, bound, rfl⟩ := List.getElem_of_mem member
  have within : id < rules.length := regroups.length_eq ▸ bound
  exact ⟨rules[id], List.getElem_mem within, regroups.get within bound⟩

end Rule.Regroups

/-- The grammar with other groups in its bodies. -/
def Grammar.regroup (grammar : Grammar) (rules : List (Rule Ref))
    (regroups : List.Forall₂ Rule.Regroups grammar.rules rules) : Grammar :=
  { grammar with
    rules
    names_nodup := Rule.Regroups.names_eq regroups ▸ grammar.names_nodup
    start_lt := regroups.length_eq ▸ grammar.start_lt
    resolved := by
      intro other member ref refers
      obtain ⟨rule, there, regrouped⟩ := Rule.Regroups.exists_of_mem regroups member
      rw [regrouped.references_eq] at refers
      -- The name at a place is the same in both lists.
      rw [← List.getElem?_map, Rule.Regroups.names_eq regroups, List.getElem?_map]
      exact grammar.resolved rule there ref refers }

@[simp] theorem Grammar.rules_regroup {grammar : Grammar} {rules : List (Rule Ref)}
    (regroups : List.Forall₂ Rule.Regroups grammar.rules rules) :
    (grammar.regroup rules regroups).rules = rules :=
  rfl

/-! ### Failures leave the cursor alone -/

/-- Whether a call that fails leaves the cursor where it was. -/
def Restores (call : Nat → Run → Option Tree × Run) : Prop :=
  ∀ id run, (call id run).1 = none → (call id run).2.position = run.position

theorem Run.Enters.position_eq {options : ParseOptions} {id : Nat} {run after : Run}
    (gate : Run.Enters options id run (.answered none after)) :
    after.position = run.position := by
  cases gate <;> rfl

theorem attempt_restores (grammar : Grammar) (tokens : List Token) (options : ParseOptions)
    (room : Nat) : Restores (attempt grammar tokens options room) := by
  intro id run
  cases gate : run.enter options id with
  | answered tree after =>
    simp only [attempt.eq_def, gate]
    rintro rfl
    exact (gate ▸ Run.enters options id run : Run.Enters options id run _).position_eq
  | opened opened =>
    obtain ⟨rfl, -⟩ := Run.opened_of_enter gate
    cases room with
    | zero => simp [attempt, gate, Run.counted]
    | succ room =>
      -- An attempt that is over without a match has put the cursor back itself.
      simp only [attempt, gate]
      cases grammar.rules[id]? with
      | none => simp [Run.counted]
      | some rule =>
        simp only [Run.settle]
        split
        · simp
        · simp [Run.moveTo, Run.counted]

/-! ### Sequences and choices in parts -/

/-- Goes on with what follows if what came first has matched. -/
def andThen (found : Option (List Tree) × Run) (next : Run → Option (List Tree) × Run) :
    Option (List Tree) × Run :=
  match found with
  | (none, after) => (none, after)
  | (some nodes, after) =>
    match next after with
    | (more, last) => (more.map (nodes ++ ·), last)

theorem andThen_assoc (found : Option (List Tree) × Run)
    (next last : Run → Option (List Tree) × Run) :
    andThen (andThen found next) last = andThen found fun run => andThen (next run) last := by
  obtain ⟨nodes, after⟩ := found
  cases nodes with
  | none => rfl
  | some nodes =>
    simp only [andThen]
    cases next after with
    | mk more between =>
      cases more with
      | none => rfl
      | some more => simp [Function.comp_def]

/-- A failure with the cursor back at a position. -/
def backTo (position : Nat) (found : Option (List Tree) × Run) : Option (List Tree) × Run :=
  match found with
  | (none, after) => (none, after.moveTo position)
  | (some nodes, after) => (some nodes, after)

theorem backTo_andThen_congr {position : Nat} (found : Option (List Tree) × Run)
    {next other : Run → Option (List Tree) × Run}
    (same : ∀ run, backTo position (next run) = backTo position (other run)) :
    backTo position (andThen found next) = backTo position (andThen found other) := by
  obtain ⟨nodes, after⟩ := found
  cases nodes with
  | none => rfl
  | some nodes =>
    have later := same after
    revert later
    simp only [andThen]
    obtain ⟨more, last⟩ := next after
    obtain ⟨others, otherLast⟩ := other after
    cases more <;> cases others <;> simp +contextual [backTo]

/-- Where the cursor goes back in the end, it does not matter that it has gone back before. -/
theorem backTo_andThen_backTo (position between : Nat) (found : Option (List Tree) × Run)
    (next : Run → Option (List Tree) × Run) :
    backTo position (andThen (backTo between found) next) =
      backTo position (andThen found next) := by
  obtain ⟨nodes, after⟩ := found
  cases nodes <;> rfl

/-- The better of two matches; the new one only if it is longer. -/
def better (best found : Option (List Tree × Nat)) : Option (List Tree × Nat) :=
  match found with
  | none => best
  | some (nodes, stop) => longer best (some nodes) stop

/-- The first longest of a choice inside a choice is the first longest of all alternatives. -/
theorem longer_better (best found : Option (List Tree × Nat)) (nodes : Option (List Tree))
    (stop : Nat) :
    longer (better best found) nodes stop = better best (longer found nodes stop) := by
  match nodes, found, best with
  | none, _, _ => rfl
  | some nodes, none, _ => rfl
  | some nodes, some (chosen, chosenStop), none =>
    simp only [better, longer]
    split <;> rfl
  | some nodes, some (chosen, chosenStop), some (first, firstStop) =>
    simp only [better, longer]
    -- Which of the three matches wins depends on how the two new ones compare with the others.
    by_cases overtaken : chosenStop ≤ firstStop
    · by_cases within : stop ≤ chosenStop
      · simp [overtaken, within, Nat.le_trans within overtaken]
      · simp [overtaken, within]
    · by_cases within : stop ≤ chosenStop
      · simp [overtaken, within]
      · have beyond : ¬ stop ≤ firstStop := by omega
        simp [overtaken, within, beyond]

/-- A repetition without an iteration is one failure of what it repeats. -/
theorem Run.iterate_of_count_eq_zero {step : Run → Option (List Tree) × Run} {bound : Nat}
    {run : Run} (never : (Run.iterate step (bound + 1) run).1.2 = 0) :
    (step run).1 = none ∧ (Run.iterate step (bound + 1) run).2 = (step run).2 := by
  rw [Run.iterate] at never ⊢
  cases once : step run with
  | mk nodes after =>
    rw [once] at never
    cases nodes with
    | none => exact ⟨rfl, rfl⟩
    | some nodes =>
      dsimp only at never
      split at never <;> contradiction

namespace Expr

section Evaluate

variable {tokens : List Token} {call : Nat → Run → Option Tree × Run}

theorem evaluateItems_cons (item : Expr Ref) (rest : List (Expr Ref)) (run : Run) :
    evaluateItems tokens call (item :: rest) run =
      andThen (item.evaluate tokens call run) (evaluateItems tokens call rest) := by
  rw [evaluateItems]
  cases item.evaluate tokens call run with
  | mk nodes after => cases nodes <;> rfl

theorem evaluateItems_append (front back : List (Expr Ref)) (run : Run) :
    evaluateItems tokens call (front ++ back) run =
      andThen (evaluateItems tokens call front run) (evaluateItems tokens call back) := by
  induction front generalizing run with
  | nil => simp [evaluateItems, andThen]
  | cons item front ih =>
    rw [List.cons_append, evaluateItems_cons, evaluateItems_cons, andThen_assoc, funext ih]

theorem evaluateAlternatives_append (front back : List (Expr Ref)) (start : Nat)
    (best : Option (List Tree × Nat)) (run : Run) :
    evaluateAlternatives tokens call (front ++ back) start best run =
      match evaluateAlternatives tokens call front start best run with
      | (found, between) => evaluateAlternatives tokens call back start found between := by
  induction front generalizing best run with
  | nil => rfl
  | cons alternative front ih =>
    rw [List.cons_append, evaluateAlternatives, evaluateAlternatives]
    exact ih _ _

theorem evaluateAlternatives_better (alternatives : List (Expr Ref)) (start : Nat)
    (best found : Option (List Tree × Nat)) (run : Run) :
    evaluateAlternatives tokens call alternatives start (better best found) run =
      match evaluateAlternatives tokens call alternatives start found run with
      | (found, after) => (better best found, after) := by
  induction alternatives generalizing found run with
  | nil => rfl
  | cons alternative rest ih =>
    simp only [evaluateAlternatives, longer_better]
    exact ih _ _

theorem position_evaluateAlternatives (tokens : List Token)
    (call : Nat → Run → Option Tree × Run) (alternatives : List (Expr Ref))
    (best : Option (List Tree × Nat)) (run : Run) :
    (evaluateAlternatives tokens call alternatives run.position best run).2.position =
      run.position := by
  induction alternatives generalizing best run with
  | nil => rfl
  | cons alternative rest ih =>
    rw [evaluateAlternatives]
    exact ih _ ((alternative.evaluate tokens call run).2.moveTo run.position)

theorem evaluate_seq (items : List (Expr Ref)) (run : Run) :
    (Expr.seq items).evaluate tokens call run =
      backTo run.position (evaluateItems tokens call items run) := by
  rw [evaluate, backTo.eq_def]
  cases evaluateItems tokens call items run with
  | mk nodes after => cases nodes <;> rfl

theorem evaluate_longest (alternatives : List (Expr Ref)) (run : Run) :
    (Expr.longest alternatives).evaluate tokens call run =
      match evaluateAlternatives tokens call alternatives run.position none run with
      | (found, after) =>
        (found.map Prod.fst, after.moveTo ((found.map Prod.snd).getD run.position)) := by
  have back := position_evaluateAlternatives tokens call alternatives none run
  rw [evaluate]
  generalize evaluateAlternatives tokens call alternatives run.position none run = tried at back
  obtain ⟨found, after⟩ := tried
  cases found with
  | none =>
    have still : after.moveTo run.position = after := by
      rw [← back]
      rfl
    simp [still]
  | some found => rfl

/-- A body that fails leaves the cursor where it was. -/
theorem position_evaluate_of_none (tokens : List Token) (restores : Restores call)
    (body : Expr Ref) (run : Run) (failed : (body.evaluate tokens call run).1 = none) :
    (body.evaluate tokens call run).2.position = run.position := by
  cases body with
  | terminal pattern =>
    rw [evaluate] at failed ⊢
    split at failed
    · contradiction
    · rfl
  | ref target =>
    rw [evaluate] at failed ⊢
    exact restores target.id run (Option.map_eq_none_iff.mp failed)
  | seq items =>
    rw [evaluate_seq] at failed ⊢
    cases found : evaluateItems tokens call items run with
    | mk nodes after =>
      rw [found] at failed
      cases nodes with
      | none => rfl
      | some nodes => contradiction
  | opt body =>
    rw [evaluate] at failed
    contradiction
  | star body =>
    rw [evaluate] at failed
    contradiction
  | plus body =>
    -- Nothing was repeated, so the state is the one behind a failure of the body.
    rw [evaluate] at failed ⊢
    have never :
        (Run.iterate (body.evaluate tokens call) (run.iterationBound tokens) run).1.2 = 0 := by
      by_contra some
      simp [some] at failed
    obtain ⟨none, still⟩ := Run.iterate_of_count_eq_zero never
    exact (congrArg Run.position still).trans
      (position_evaluate_of_none tokens restores body run none)
  | longest alternatives =>
    rw [evaluate_longest] at failed ⊢
    have none := Option.map_eq_none_iff.mp failed
    simp [none, Run.moveTo]

/-- The alternatives of a choice can be tried in its place. -/
theorem evaluateAlternatives_longest (inner back : List (Expr Ref))
    (best : Option (List Tree × Nat)) (run : Run) :
    evaluateAlternatives tokens call (inner ++ back) run.position best run =
      evaluateAlternatives tokens call (.longest inner :: back) run.position best run := by
  have flat : evaluateAlternatives tokens call inner run.position best run =
      match evaluateAlternatives tokens call inner run.position none run with
      | (found, after) => (better best found, after) :=
    evaluateAlternatives_better inner run.position best none run
  have stays := position_evaluateAlternatives tokens call inner none run
  rw [evaluateAlternatives_append, flat, evaluateAlternatives, evaluate_longest]
  generalize evaluateAlternatives tokens call inner run.position none run = tried at stays
  obtain ⟨found, after⟩ := tried
  have still : after.moveTo run.position = after := by
    rw [← stays]
    rfl
  cases found with
  | none =>
    show _ = evaluateAlternatives tokens call back run.position best (after.moveTo run.position)
    rw [still]
    rfl
  | some found =>
    show _ = evaluateAlternatives tokens call back run.position
      (longer best (some found.1) found.2) (after.moveTo run.position)
    rw [still]
    rfl

/-- Opening a group changes nothing, if failures leave the cursor alone. -/
theorem Regroups.evaluate_eq {body other : Expr Ref} (regroups : body.Regroups other)
    (restores : Restores call) : other.evaluate tokens call = body.evaluate tokens call := by
  -- By induction on where the group stands; the first four cases open it.
  induction regroups with
  | items front inner back =>
    funext run
    rw [evaluate_seq, evaluate_seq, List.append_assoc, evaluateItems_append front,
      evaluateItems_append front]
    apply backTo_andThen_congr
    intro between
    rw [evaluateItems_append, evaluateItems_cons, evaluate_seq, backTo_andThen_backTo]
  | alternatives front inner back =>
    funext run
    rw [evaluate_longest, evaluate_longest, List.append_assoc, evaluateAlternatives_append front,
      evaluateAlternatives_append front]
    have stays := position_evaluateAlternatives tokens call front none run
    generalize evaluateAlternatives tokens call front run.position none run = tried at stays
    obtain ⟨found, between⟩ := tried
    dsimp only at stays ⊢
    -- The inner choice begins where the outer one began.
    rw [← stays, evaluateAlternatives_longest]
  | onlyItem body =>
    funext run
    have still := position_evaluate_of_none tokens restores body run
    rw [evaluate_seq, evaluateItems_cons]
    cases found : body.evaluate tokens call run with
    | mk nodes after =>
      rw [found] at still
      cases nodes with
      | none => simp [andThen, backTo, ← still rfl, Run.moveTo]
      | some nodes => simp [andThen, backTo, evaluateItems]
  | onlyAlternative body =>
    funext run
    have still := position_evaluate_of_none tokens restores body run
    rw [evaluate_longest, evaluateAlternatives]
    cases found : body.evaluate tokens call run with
    | mk nodes after =>
      rw [found] at still
      cases nodes with
      | none => simp [longer, evaluateAlternatives, ← still rfl, Run.moveTo]
      | some nodes => simp [longer, evaluateAlternatives, Run.moveTo]
  | @inSeq front back body other inside ih =>
    funext run
    have same :
        evaluateItems tokens call (other :: back) = evaluateItems tokens call (body :: back) := by
      funext between
      rw [evaluateItems_cons, evaluateItems_cons, ih]
    rw [evaluate_seq, evaluate_seq, evaluateItems_append, evaluateItems_append, same]
  | inLongest front back inside ih =>
    funext run
    rw [evaluate_longest, evaluate_longest, evaluateAlternatives_append,
      evaluateAlternatives_append]
    simp only [evaluateAlternatives, ih]
  | inOpt inside ih =>
    funext run
    rw [evaluate, evaluate, ih]
  | inStar inside ih =>
    funext run
    rw [evaluate, evaluate, ih]
  | inPlus inside ih =>
    funext run
    rw [evaluate, evaluate, ih]

theorem evaluate_eq_of_regroupings (tokens : List Token) {body other : Expr Ref}
    (regroups : Relation.ReflTransGen Regroups body other) (restores : Restores call) :
    other.evaluate tokens call = body.evaluate tokens call := by
  induction regroups with
  | refl => rfl
  | tail _ last ih => rw [last.evaluate_eq restores, ih]

end Evaluate

end Expr

/-! ### The same run -/

section Regroup

variable {grammar : Grammar} {rules : List (Rule Ref)}
  (regroups : List.Forall₂ Rule.Regroups grammar.rules rules)

theorem Rule.Regroups.getElem?_cases {rules others : List (Rule Ref)}
    (regroups : List.Forall₂ Rule.Regroups rules others) (id : Nat) :
    (rules[id]? = none ∧ others[id]? = none) ∨
      ∃ rule other, rules[id]? = some rule ∧ others[id]? = some other ∧ rule.Regroups other := by
  rcases Nat.lt_or_ge id rules.length with inside | beyond
  · have otherInside : id < others.length := regroups.length_eq ▸ inside
    exact .inr ⟨_, _, List.getElem?_eq_getElem inside, List.getElem?_eq_getElem otherInside,
      regroups.get inside otherInside⟩
  · exact .inl ⟨List.getElem?_eq_none beyond,
      List.getElem?_eq_none (regroups.length_eq ▸ beyond)⟩

/-- Attempts are the same functions, by induction on the room that calls inside calls have. -/
theorem attempt_regroup (tokens : List Token) (options : ParseOptions) (room : Nat) :
    attempt (grammar.regroup rules regroups) tokens options room =
      attempt grammar tokens options room := by
  induction room with
  | zero =>
    funext id run
    simp only [attempt]
  | succ room ih =>
    funext id run
    simp only [attempt]
    cases run.enter options id with
    | answered tree after => rfl
    | opened opened =>
      rcases Rule.Regroups.getElem?_cases regroups id with
        ⟨missing, otherMissing⟩ | ⟨rule, other, there, otherThere, regrouped⟩
      · simp only [Grammar.rules_regroup, missing, otherMissing]
      · -- The bodies are evaluated alike, and the calls inside them are so by induction.
        have same := Expr.evaluate_eq_of_regroupings tokens regrouped.body
          (attempt_restores grammar tokens options room)
        simp only [Grammar.rules_regroup, there, otherThere, ih, same, regrouped.name]

theorem Grammar.ruleId?_regroup (name : String) :
    (grammar.regroup rules regroups).ruleId? name = grammar.ruleId? name :=
  congrArg (place? · name) (Rule.Regroups.names_eq regroups)

theorem Parser.callId_regroup (tokens : List Token) (options : ParseOptions) (run : Run)
    (id : Nat) :
    callId ⟨grammar.regroup rules regroups, tokens, options, run⟩ id =
      match callId ⟨grammar, tokens, options, run⟩ id with
      | (tree, after) => (tree, { after with grammar := grammar.regroup rules regroups }) := by
  have room : attemptRoom (grammar.regroup rules regroups) tokens = attemptRoom grammar tokens :=
    congrArg (· * (tokens.length + 1)) regroups.length_eq.symm
  simp only [callId, room, attempt_regroup regroups]

theorem Parser.call_regroup (tokens : List Token) (options : ParseOptions) (run : Run)
    (call : Call) :
    Parser.call ⟨grammar.regroup rules regroups, tokens, options, run⟩ call =
      match Parser.call ⟨grammar, tokens, options, run⟩ call with
      | (tree, after) => (tree, { after with grammar := grammar.regroup rules regroups }) := by
  cases call with
  | start => exact callId_regroup regroups tokens options run grammar.start
  | rule name =>
    simp only [Parser.call, callRule, Grammar.ruleId?_regroup regroups]
    cases grammar.ruleId? name with
    | none => rfl
    | some id => exact callId_regroup regroups tokens options run id

theorem Parser.grammar_call (parser : Parser) (call : Call) :
    (parser.call call).2.grammar = parser.grammar := by
  cases call with
  | start => rfl
  | rule name =>
    simp only [Parser.call, callRule]
    split <;> rfl

/-- A parser, and the parser in the same state whose grammar has other groups. -/
structure Parser.Regrouped (parser other : Parser) : Prop where
  grammar_eq : parser.grammar = grammar
  other_eq : other = { parser with grammar := grammar.regroup rules regroups }

theorem Parser.Regrouped.call {parser other : Parser} (regrouped : Regrouped regroups parser other)
    (call : Call) :
    (other.call call).1 = (parser.call call).1 ∧
      Regrouped regroups (parser.call call).2 (other.call call).2 := by
  obtain ⟨known, tokens, options, run⟩ := parser
  obtain ⟨rfl, rfl⟩ := regrouped
  rw [call_regroup regroups]
  exact ⟨rfl, grammar_call _ call, rfl⟩

theorem Parser.Regrouped.account_eq {parser other : Parser}
    (regrouped : Regrouped regroups parser other) (tree : Option Tree) :
    other.account tree = parser.account tree := by
  rw [regrouped.other_eq]
  rfl

end Regroup

/--
A grammar with other groups in its bodies parses alike. Whatever sequences in sequences, choices in
choices and groups of one are opened, and wherever they stand, a parser gives the same trees and
tells of the same positions, furthest positions, steps and errors over any calls, with a memory or
without one and under any budget.
-/
theorem Parser.accounts_regroup (grammar : Grammar) (rules : List (Rule Ref))
    (regroups : List.Forall₂ Rule.Regroups grammar.rules rules) (tokens : List Token)
    (options : ParseOptions) (calls : List Call) :
    accounts { grammar := grammar.regroup rules regroups, tokens, options } calls =
      accounts { grammar, tokens, options } calls := by
  have step (parser other : Parser) (call : Call) (related : Regrouped regroups parser other) :
      (other.call call).2.account (other.call call).1 =
          id ((parser.call call).2.account (parser.call call).1) ∧
        Regrouped regroups (parser.call call).2 (other.call call).2 := by
    obtain ⟨tree, later⟩ := related.call regroups call
    exact ⟨tree ▸ later.account_eq regroups _, later⟩
  have begun : Regrouped regroups { grammar, tokens, options }
      { grammar := grammar.regroup rules regroups, tokens, options } := ⟨rfl, rfl⟩
  rw [accounts_eq_map step begun calls, List.map_id]

/-- Phrases whose production holds groups of every kind that can be opened. -/
def groupedPhrases : Grammar :=
  Grammar.of [
    ⟨"Phrase", .seq [.seq [.ref "Noun", .opt (.seq [.ref "Marker"])],
      .longest [.longest [.ref "Verb", .seq [.ref "Noun", .ref "Verb"]], .ref "Noun"]]⟩,
    ⟨"Noun", .longest [.terminal (Pattern.of "NN[GP]")]⟩,
    ⟨"Marker", .terminal (Pattern.of "J[KX].?")⟩,
    ⟨"Verb", .terminal (Pattern.of "V[VA]")⟩]

/-- The same productions without these groups. -/
def plainPhrases : List (Rule Ref) :=
  [⟨"Phrase", .seq [.ref ⟨"Noun", 1⟩, .opt (.ref ⟨"Marker", 2⟩),
      .longest [.ref ⟨"Verb", 3⟩, .seq [.ref ⟨"Noun", 1⟩, .ref ⟨"Verb", 3⟩], .ref ⟨"Noun", 1⟩]]⟩,
    ⟨"Noun", .terminal (Pattern.of "NN[GP]")⟩,
    ⟨"Marker", .terminal (Pattern.of "J[KX].?")⟩,
    ⟨"Verb", .terminal (Pattern.of "V[VA]")⟩]

theorem groupedPhrases_regroups : List.Forall₂ Rule.Regroups groupedPhrases.rules plainPhrases := by
  have rules : groupedPhrases.rules = [
      ⟨"Phrase", .seq [.seq [.ref ⟨"Noun", 1⟩, .opt (.seq [.ref ⟨"Marker", 2⟩])],
        .longest [.longest [.ref ⟨"Verb", 3⟩, .seq [.ref ⟨"Noun", 1⟩, .ref ⟨"Verb", 3⟩]],
          .ref ⟨"Noun", 1⟩]]⟩,
      ⟨"Noun", .longest [.terminal (Pattern.of "NN[GP]")]⟩,
      ⟨"Marker", .terminal (Pattern.of "J[KX].?")⟩,
      ⟨"Verb", .terminal (Pattern.of "V[VA]")⟩] := by decide +kernel
  rw [rules]
  refine .cons ⟨rfl, ?_⟩ (.cons ⟨rfl, ?_⟩ (.cons ⟨rfl, .refl⟩ (.cons ⟨rfl, .refl⟩ .nil)))
  · -- From the outside to the inside.
    refine .head (.items [] _ _) (.head (.inSeq [_] [_] (.inOpt (.onlyItem _))) ?_)
    exact .single (.inSeq [_, _] [] (.alternatives [] _ [_]))
  · exact .single (.onlyAlternative _)

/-- A noun with a marker in front of a noun and a verb is parsed alike, groups or not. -/
theorem Parser.accounts_regroup_phrases :
    let tokens : List Token := [⟨"나", "NNG"⟩, ⟨"는", "JX"⟩, ⟨"밥", "NNG"⟩, ⟨"먹", "VV"⟩]
    let grouped : Parser := { grammar := groupedPhrases, tokens }
    let plain : Parser :=
      { grammar := groupedPhrases.regroup plainPhrases groupedPhrases_regroups, tokens }
    List.Forall₂ Rule.Regroups groupedPhrases.rules plainPhrases ∧
      (grouped.accounts [.rule "Verb", .start]).map Account.steps = [1, 8] ∧
      plain.accounts [.rule "Verb", .start] = grouped.accounts [.rule "Verb", .start] :=
  ⟨groupedPhrases_regroups, by decide +kernel, accounts_regroup _ _ groupedPhrases_regroups _ _ _⟩

end Constituency
