import Constituency.Proofs.Grammar.Acceptance
import Constituency.Proofs.Parser.Alternatives
import Constituency.Proofs.Parser.Simulation
import Mathlib.Data.List.Forall2

/-!
# The order of productions does not matter

Productions are referred to by their names. In another order each name has another place, and so
have all references, the attempts under way and what is known of attempts. But names are distinct,
so each place in the one order is one place in the other: a grammar with its productions in another
order is built as well, and a parser goes through the same states at the other places.
-/
namespace Constituency

/-- What a production says in a grammar text. -/
def Rule.named (rule : Rule Ref) : Rule String := ⟨rule.name, rule.body.mapRefs Ref.name⟩

theorem Likeness.named_rule (like : Likeness) (rule : Rule Ref) :
    (like.rule rule).named = rule.named := by
  rw [Rule.named, Likeness.rule, Expr.mapRefs_mapRefs]
  rfl

/-- What has been changed and is in another order was in another order before the change. -/
theorem exists_map_eq_of_perm {α β : Type} {change : α → β} {items : List α} {others : List β}
    (perm : others.Perm (items.map change)) :
    ∃ moved : List α, moved.map change = others ∧ moved.Perm items := by
  have changed : List.Forall₂ (fun other item => other = change item) (items.map change) items :=
    List.forall₂_map_left_iff.mpr (List.forall₂_same.mpr fun _ _ => rfl)
  obtain ⟨moved, related, reordered⟩ := List.perm_comp_forall₂ perm changed
  have equal : List.Forall₂ (· = ·) others (moved.map change) :=
    List.forall₂_map_right_iff.mpr related
  rw [List.forall₂_eq_eq_eq] at equal
  exact ⟨moved, equal.symm, reordered⟩

namespace Grammar

/-! ### Places of the same names -/

/-- The place among other names of the name at a place. -/
def placeAmong (names others : List String) (id : Nat) : Nat :=
  (names[id]?.bind (place? others)).getD id

section Places

variable {names others : List String} (perm : names.Perm others)

include perm in
theorem place?_of_perm {id : Nat} {name : String} (there : names[id]? = some name) :
    place? others name = some (placeAmong names others id) := by
  have member : name ∈ others := perm.mem_iff.mp (List.mem_of_getElem? there)
  obtain ⟨place, found⟩ : ∃ place, place? others name = some place :=
    Option.isSome_iff_exists.mp (List.isSome_idxOf?.mpr member)
  simp [placeAmong, there, found]

include perm in
theorem place?_eq_map (name : String) :
    place? others name = (place? names name).map (placeAmong names others) := by
  cases found : place? names name with
  | some id => exact place?_of_perm perm (getElem?_of_place? found)
  | none =>
    have missing : name ∉ names := List.idxOf?_eq_none_iff.mp found
    exact List.idxOf?_eq_none_iff.mpr fun member => missing (perm.mem_iff.mpr member)

include perm in
theorem getElem?_placeAmong (id : Nat) : others[placeAmong names others id]? = names[id]? := by
  cases there : names[id]? with
  | some name => exact getElem?_of_place? (place?_of_perm perm there)
  | none =>
    have beyond : others.length ≤ id := perm.length_eq ▸ List.getElem?_eq_none_iff.mp there
    simpa [placeAmong, there] using beyond

include perm in
theorem placeAmong_injective (nodup : names.Nodup) :
    Function.Injective (placeAmong names others) := by
  intro id other same
  have name : names[id]? = names[other]? := by
    rw [← getElem?_placeAmong perm id, same, getElem?_placeAmong perm other]
  cases there : names[id]? with
  | some found =>
    have bound := (List.getElem?_eq_some_iff.mp there).1
    exact (List.getElem?_inj bound nodup).mp name
  | none =>
    -- Places behind the last name stay where they are.
    have otherThere := name.symm.trans there
    simpa [placeAmong, there, otherThere] using same

end Places

/-! ### Grammars in another order -/

/-- The places of the productions of a grammar among other names. -/
def reordering (grammar : Grammar) (names : List String) : Likeness where
  place := placeAmong (grammar.rules.map Rule.name) names

/-- Whether a grammar has the productions of another one in any order. -/
def Reorders (grammar other : Grammar) : Prop :=
  (grammar.rules.map (grammar.reordering (other.rules.map Rule.name)).rule).Perm other.rules

variable {grammar other : Grammar}

theorem Reorders.names (reorders : grammar.Reorders other) :
    (grammar.rules.map Rule.name).Perm (other.rules.map Rule.name) := by
  have names := reorders.map Rule.name
  rwa [List.map_map] at names

theorem Reorders.ruleId?_eq (reorders : grammar.Reorders other) (name : String) :
    other.ruleId? name = (grammar.ruleId? name).map
      (grammar.reordering (other.rules.map Rule.name)).place :=
  place?_eq_map reorders.names name

/-- A grammar in another order stands for the grammar, over any tokens. -/
theorem Reorders.holds (reorders : grammar.Reorders other) (tokens : List Token) :
    (grammar.reordering (other.rules.map Rule.name)).Holds tokens tokens grammar other where
  place_injective := placeAmong_injective reorders.names grammar.names_nodup
  production := by
    intro id rule _ there
    refine ⟨?_, fun _ _ => trivial, ?_, fun _ _ _ _ _ => trivial⟩
    · -- The production stands somewhere, and its name stands at its place only.
      have member := reorders.mem_iff.mp (List.mem_map_of_mem (List.mem_of_getElem? there))
      obtain ⟨place, production⟩ := List.getElem?_of_mem member
      have named : (other.rules.map Rule.name)[place]? = some rule.name := by
        rw [List.getElem?_map, production]
        rfl
      have first : (grammar.rules.map Rule.name)[id]? = some rule.name := by
        rw [List.getElem?_map, there]
        rfl
      have same := (place?_of_perm reorders.names first).symm.trans
        (place?_eq_some other.names_nodup named)
      obtain rfl := Option.some.inj same
      exact production
    · intro pattern _ position _
      exact (congrFun Option.map_id _).symm

/-- References to productions are found again among the names in another order. -/
theorem refTo?_reordering {names : List String}
    (perm : (grammar.rules.map Rule.name).Perm names) {rule : Rule Ref}
    (member : rule ∈ grammar.rules) {target : Ref} (refers : target ∈ rule.body.references) :
    refTo? names target.name = some ((grammar.reordering names).ref target) := by
  have there := grammar.resolved rule member target refers
  rw [← List.getElem?_map] at there
  rw [refTo?, place?_of_perm perm there]
  rfl

theorem resolveRules_reordering {names : List String}
    (perm : (grammar.rules.map Rule.name).Perm names) {productions : List (Rule Ref)}
    (stand : ∀ rule ∈ productions, rule ∈ grammar.rules) :
    resolveRules names (productions.map Rule.named) =
      .ok (productions.map (grammar.reordering names).rule) := by
  have undone : (productions.map (grammar.reordering names).rule).map Rule.named =
      productions.map Rule.named := by
    rw [List.map_map]
    exact List.map_congr_left fun rule _ => Likeness.named_rule _ rule
  rw [← undone]
  apply resolveRules_map
  intro rule member ref refers
  obtain ⟨production, there, rfl⟩ := List.mem_map.mp member
  rw [Likeness.rule, Expr.references_mapRefs] at refers
  obtain ⟨target, stands, rfl⟩ := List.mem_map.mp refers
  exact refTo?_reordering perm (stand production there) stands

/-- Rules that are accepted in one order are accepted in every order. -/
theorem exists_reorders {rules others : List (Rule String)} (built : ofRules rules = .ok grammar)
    (perm : rules.Perm others) : ∃ other, ofRules others = .ok other ∧ grammar.Reorders other := by
  obtain ⟨text, -, -⟩ := text_rules_of_ofRules built
  have said : grammar.rules.map Rule.named = rules := text
  -- The productions of the grammar are moved as their rules have been moved.
  obtain ⟨productions, rfl, moved⟩ := exists_map_eq_of_perm (said ▸ perm.symm)
  have named : (productions.map Rule.named).map Rule.name = productions.map Rule.name :=
    List.map_map
  have names : (grammar.rules.map Rule.name).Perm ((productions.map Rule.named).map Rule.name) :=
    named ▸ (moved.map Rule.name).symm
  have some : productions.map Rule.named ≠ [] := by
    have first : 0 < productions.length := moved.length_eq ▸ Nat.zero_lt_of_lt grammar.start_lt
    simpa [← List.length_pos_iff] using first
  have resolved := resolveRules_reordering names fun rule there => moved.mem_iff.mp there
  obtain ⟨other, done, others, -, -⟩ :=
    ofRules_eq_ok some (names.nodup_iff.mp grammar.names_nodup) resolved
  have otherNames : other.rules.map Rule.name = (productions.map Rule.named).map Rule.name := by
    rw [others, List.map_map, named]
    rfl
  refine ⟨other, done, ?_⟩
  rw [Reorders, otherNames, others]
  exact (moved.map _).symm

/-- The same production can be the first one in every order. -/
theorem Reorders.withStart {started : Grammar} {name : String} (reorders : grammar.Reorders other)
    (starts : grammar.withStart name = .ok started) :
    ∃ otherStarted, other.withStart name = .ok otherStarted ∧ started.Reorders otherStarted ∧
      ∀ call : Call, call.target? otherStarted = (call.target? started).map
        (started.reordering (otherStarted.rules.map Rule.name)).place := by
  obtain ⟨rules, there, -, -⟩ := rules_of_withStart starts
  have otherThere := reorders.ruleId?_eq name
  rw [there] at otherThere
  obtain ⟨otherStarted, otherStarts, otherRules, otherStart, -, -⟩ := withStart_eq_ok otherThere
  have startedReorders : started.Reorders otherStarted := by
    simpa only [Reorders, reordering, rules, otherRules] using reorders
  refine ⟨otherStarted, otherStarts, startedReorders, fun call => ?_⟩
  cases call with
  | start =>
    simp only [Call.target?, otherStart, Option.map_some, reordering, rules, otherRules]
  | rule name => exact startedReorders.ruleId?_eq name

end Grammar

/-! ### Calls in another order -/

/--
The order of productions does not matter. If a list of rules is accepted, it is accepted in every
order, and if a production is named to start with, it can be named in every order. Then a parser
gives the same trees and tells of the same positions, furthest positions, steps and errors over any
calls, with a memory or without one and under any budget.
-/
theorem Parser.accounts_of_perm {rules others : List (Rule String)} {grammar started : Grammar}
    {name : String} (built : Grammar.ofRules rules = .ok grammar) (perm : rules.Perm others)
    (starts : grammar.withStart name = .ok started) :
    ∃ other otherStarted, Grammar.ofRules others = .ok other ∧
      other.withStart name = .ok otherStarted ∧
      ∀ (tokens : List Token) (options : ParseOptions) (calls : List Call),
        accounts { grammar := otherStarted, tokens, options } calls =
          accounts { grammar := started, tokens, options } calls := by
  obtain ⟨other, otherBuilt, reorders⟩ := Grammar.exists_reorders built perm
  obtain ⟨otherStarted, otherStarts, startedReorders, targets⟩ := reorders.withStart starts
  refine ⟨other, otherStarted, otherBuilt, otherStarts, fun tokens options calls => ?_⟩
  -- Only places differ between the two grammars, and no account tells of a place.
  calc accounts { grammar := otherStarted, tokens, options } calls
    _ = (accounts { grammar := started, tokens, options } calls).map
          (Account.reword fun _ token => token) := by
        apply Likeness.accounts_eq (startedReorders.holds tokens) targets
        · exact fun _ _ _ => trivial
        · trivial
        · exact fun position _ => (congrFun Option.map_id _).symm
    _ = accounts { grammar := started, tokens, options } calls := by
        rw [Account.reword_self, List.map_id]

/-- Four productions the other way round: the one to start with becomes the last one. -/
theorem Parser.accounts_of_perm_objectPhrases :
    let rules := objectPhrases.text.rules
    let grammar := accepted (Grammar.ofRules rules) (by decide +kernel)
    let started := accepted (grammar.withStart "Phrase") (by decide +kernel)
    Grammar.ofRules rules = .ok grammar ∧ rules.Perm rules.reverse ∧
      grammar.withStart "Phrase" = .ok started ∧
      ∃ other otherStarted, Grammar.ofRules rules.reverse = .ok other ∧
        other.withStart "Phrase" = .ok otherStarted ∧
        ∀ (tokens : List Token) (options : ParseOptions) (calls : List Call),
          accounts { grammar := otherStarted, tokens, options } calls =
            accounts { grammar := started, tokens, options } calls := by
  intro rules grammar started
  have built : Grammar.ofRules rules = .ok grammar := eq_ok_accepted _
  have perm : rules.Perm rules.reverse := (List.reverse_perm rules).symm
  have starts : grammar.withStart "Phrase" = .ok started := eq_ok_accepted _
  exact ⟨built, perm, starts, accounts_of_perm built perm starts⟩

end Constituency
