import Constituency.Proofs.Parser.Derivation
import Constituency.Proofs.Parser.Order
import Constituency.Proofs.Parser.Parts

/-!
# Closed lists of productions

A list of productions is closed if it is not empty, gives no name twice, and has a production for
every reference, however deep it stands in a body. These are the lists from which a grammar is
built. In the grammar each reference has the place of the production that it names; all else is as
it was in the list, also when the start or the sets of labels are set afterwards. A parser goes from
references to the productions at their places, so it never leaves the list.
-/
namespace Constituency

namespace Grammar

variable {rules : List (Rule String)} {built grammar : Grammar} {tokens : List Token}
  {options : ParseOptions}

/-! ### Which lists are accepted -/

/-- What is asked of the productions of a grammar. -/
structure IsClosed (rules : List (Rule String)) : Prop where
  nonempty : rules ≠ []
  nodup : (rules.map Rule.name).Nodup
  defined : ∀ rule ∈ rules, ∀ name ∈ rule.body.references, name ∈ rules.map Rule.name

/-- The reference that stands for a name of the list. -/
def refTo (names : List String) (name : String) : Ref := ⟨name, names.idxOf name⟩

theorem refTo?_of_mem {names : List String} {name : String} (nodup : names.Nodup)
    (member : name ∈ names) : refTo? names name = some (refTo names name) := by
  rw [refTo?, place?_eq_some nodup (List.getElem?_idxOf member)]
  rfl

/-- The production with the references that its names stand for. -/
def resolveRule (names : List String) (rule : Rule String) : Rule Ref :=
  ⟨rule.name, rule.body.mapRefs (refTo names)⟩

theorem named_resolveRule (names : List String) (rule : Rule String) :
    (resolveRule names rule).named = rule := by
  have same : rule.body.mapRefs (Ref.name ∘ refTo names) = rule.body :=
    Expr.mapRefs_self fun _ _ => rfl
  rw [resolveRule, Rule.named, Expr.mapRefs_mapRefs, same]

/-- Every reference of a closed list is found. -/
theorem IsClosed.resolveRules_eq (closed : IsClosed rules) :
    resolveRules (rules.map Rule.name) rules =
      .ok (rules.map (resolveRule (rules.map Rule.name))) := by
  let names := rules.map Rule.name
  have undone : (rules.map (resolveRule names)).map Rule.named = rules := by
    rw [List.map_map]
    exact List.map_id'' (named_resolveRule names) rules
  have found := @resolveRules_map names (rules.map (resolveRule names))
  change _ → resolveRules names ((rules.map (resolveRule names)).map Rule.named) = _ at found
  rw [undone] at found
  apply found
  intro resolved member ref refers
  obtain ⟨rule, there, rfl⟩ := List.mem_map.mp member
  rw [resolveRule, Expr.references_mapRefs] at refers
  obtain ⟨name, stands, rfl⟩ := List.mem_map.mp refers
  exact refTo?_of_mem closed.nodup (closed.defined rule there name stands)

theorem names_of_ofRules (done : ofRules rules = .ok built) :
    built.rules.map Rule.named = rules ∧ built.rules.map Rule.name = rules.map Rule.name := by
  obtain ⟨text, -, -⟩ := text_rules_of_ofRules done
  have said : built.rules.map Rule.named = rules := text
  exact ⟨said, by rw [← said, List.map_map]; rfl⟩

/-- A grammar is built from the closed lists and from no others. -/
theorem exists_ofRules_iff : (∃ built, ofRules rules = .ok built) ↔ IsClosed rules := by
  constructor
  · rintro ⟨built, done⟩
    obtain ⟨said, names⟩ := names_of_ofRules done
    refine ⟨?_, names ▸ built.names_nodup, fun rule member name refers => ?_⟩
    · rintro rfl
      have start := built.start_lt
      rw [List.map_eq_nil_iff.mp said] at start
      contradiction
    · -- The name is that of a reference, which has been found in the grammar.
      rw [← said] at member
      obtain ⟨resolved, there, rfl⟩ := List.mem_map.mp member
      rw [Rule.named, Expr.references_mapRefs] at refers
      obtain ⟨ref, stands, rfl⟩ := List.mem_map.mp refers
      have target := built.resolved resolved there ref stands
      rw [← List.getElem?_map, names] at target
      exact List.mem_of_getElem? target
  · intro closed
    obtain ⟨built, done, -⟩ := ofRules_eq_ok closed.nonempty closed.nodup closed.resolveRules_eq
    exact ⟨built, done⟩

/-! ### Where a parser comes to -/

/-- Whether a task goes to no production outside the grammar. -/
def Keeps (grammar : Grammar) : Task → Prop
  | .attempt id => id < grammar.rules.length
  | task => task.Resolved grammar.rules

/-- What is asked of the references of a body is asked of those of its parts. -/
theorem Keeps.leads {task part : Task} {run start : Run} (keeps : grammar.Keeps task)
    (leads : Leads grammar tokens options task run part start) : grammar.Keeps part := by
  cases leads with
  | inside gate production => exact grammar.resolved _ (List.mem_of_getElem? production)
  | @ref target =>
    have found := keeps target (List.mem_singleton_self target)
    obtain ⟨rule, there, -⟩ := Option.map_eq_some_iff.mp found
    exact (List.getElem?_eq_some_iff.mp there).1
  | seq | longest => exact Expr.Resolved.items keeps
  | opt | star | plus | iteration | moreIterations => exact keeps
  | item | alternative => exact keeps _ (List.mem_cons_self ..)
  | moreItems | moreAlternatives => exact fun expr later => keeps expr (List.mem_cons_of_mem _ later)

/-- Whatever a call meets stays inside the grammar. -/
theorem Keeps.meets {whole part : Task × Run} (keeps : grammar.Keeps whole.1)
    (meets : Meets grammar tokens options whole part) : grammar.Keeps part.1 := by
  induction meets with
  | refl => exact keeps
  | tail _ leads ih => exact ih.leads leads

/-! ### What is built -/

/-- A grammar that has the productions of a list, with each reference at its place. -/
structure Resolves (grammar : Grammar) (rules : List (Rule String)) : Prop where
  start_lt : grammar.start < rules.length
  /-- Names and bodies are those of the list; only the places of references are new. -/
  unchanged : grammar.rules.map Rule.named = rules
  points : ∀ rule ∈ grammar.rules, ∀ ref ∈ rule.body.references,
    ∃ target, rules[ref.id]? = some target ∧ target.name = ref.name
  ruleId?_iff : ∀ name id, grammar.ruleId? name = some id ↔
    ∃ rule, rules[id]? = some rule ∧ rule.name = name
  /-- From any state, no call comes to a place outside the list. -/
  stays : ∀ (tokens : List Token) (options : ParseOptions) (call : Call) (run start : Run)
    (id other : Nat), call.target? grammar = some id →
    Meets grammar tokens options (.attempt id, run) (.attempt other, start) → other < rules.length

theorem resolves_of_ofRules {directives : List Directive} (done : ofRules rules = .ok built)
    (directed : directives.foldlM direct built = .ok grammar) : grammar.Resolves rules := by
  obtain ⟨same, -, -⟩ := rules_of_foldlM_direct directed
  obtain ⟨said, names⟩ := names_of_ofRules done
  rw [← same] at said names
  have length : grammar.rules.length = rules.length := by
    rw [← List.length_map (f := Rule.name), names, List.length_map]
  have named (id : Nat) (name : String) : (rules.map Rule.name)[id]? = some name ↔
      ∃ rule, rules[id]? = some rule ∧ rule.name = name := by
    rw [List.getElem?_map, Option.map_eq_some_iff]
  constructor
  · exact length ▸ grammar.start_lt
  · exact said
  · intro rule member ref refers
    rw [← named, ← names, List.getElem?_map]
    exact grammar.resolved rule member ref refers
  · intro name id
    rw [← named, ← names]
    exact ⟨getElem?_of_place?, place?_eq_some grammar.names_nodup⟩
  · intro tokens options call run start id other target meets
    have keeps : grammar.Keeps (.attempt id) := Call.lt_of_target? target
    exact length ▸ keeps.meets meets

/--
A grammar is built from a list of productions exactly if the list is closed. Whatever start and
labels are set afterwards, its references stand for the productions that they name, nothing else of
the list has changed, names are found at the places of their productions, and a parser, over any
sentence and from any state, comes to productions of the list only.
-/
theorem ofRules_resolves (rules : List (Rule String)) :
    ((∃ built, ofRules rules = .ok built) ↔ IsClosed rules) ∧
      ∀ (built grammar : Grammar) (directives : List Directive), ofRules rules = .ok built →
        directives.foldlM direct built = .ok grammar → grammar.Resolves rules :=
  ⟨exists_ofRules_iff, fun _ _ _ done directed => resolves_of_ofRules done directed⟩

/-- References below four combinators. -/
def choiceRules : List (Rule String) :=
  [⟨"S", .seq [.star (.longest [.ref "A", .seq [.opt (.ref "S"), .ref "B"]]), .ref "A"]⟩,
   ⟨"B", .plus (.ref "A")⟩,
   ⟨"A", .terminal (.of "N[PR]")⟩]

/-- A start and labels that are set afterwards. -/
def choiceDirectives : List Directive := [.flatten ["B"], .start "B", .hide ["S", "T"]]

def choiceGrammar : Grammar :=
  accepted (choiceDirectives.foldlM direct (.of choiceRules)) (by decide +kernel)

theorem ofRules_resolves_choices : ofRules choiceRules = .ok (.of choiceRules) ∧
    choiceDirectives.foldlM direct (.of choiceRules) = .ok choiceGrammar ∧
      IsClosed choiceRules ∧ choiceGrammar.Resolves choiceRules := by
  have done : ofRules choiceRules = .ok (.of choiceRules) := eq_ok_accepted _
  have directed : choiceDirectives.foldlM direct (.of choiceRules) = .ok choiceGrammar :=
    eq_ok_accepted _
  obtain ⟨closed, resolves⟩ := ofRules_resolves choiceRules
  exact ⟨done, directed, closed.mp ⟨_, done⟩, resolves _ _ _ done directed⟩

end Grammar

end Constituency
