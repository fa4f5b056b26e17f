import Constituency.Grammar.Reader
import Constituency.LabelSet

/-!
# Grammars

A grammar is a list of productions in which every reference is resolved to the place of the
production it names. Names are distinct, the start production is one of the list, and each
reference stands for the production of its name; these three facts belong to the type, so a parser
can follow a reference without a check.
-/
namespace Constituency

/-- A reference to a production: its name, and its place in the list of productions. -/
structure Ref where
  name : String
  id : Nat
deriving DecidableEq, Repr

/-- Whether every reference of a body stands for the production of its name. -/
def Expr.Resolved (rules : List (Rule Ref)) (body : Expr Ref) : Prop :=
  ∀ ref ∈ body.references, (rules[ref.id]?).map Rule.name = some ref.name

structure Grammar where
  rules : List (Rule Ref)
  start : Nat
  flatten : LabelSet := {}
  hidden : LabelSet := {}
  names_nodup : (rules.map Rule.name).Nodup
  start_lt : start < rules.length
  resolved : ∀ rule ∈ rules, rule.body.Resolved rules

namespace Grammar

/-! ## Building -/

/-- The place of a name in a list of names. -/
def place? (names : List String) (name : String) : Option Nat := names.idxOf? name

def refTo? (names : List String) (name : String) : Option Ref :=
  (place? names name).map fun id => ⟨name, id⟩

/-- The first name that stands in the list a second time, in the order of the second places. -/
def firstRepeated? (seen : List String) : List String → Option String
  | [] => none
  | name :: rest => if name ∈ seen then some name else firstRepeated? (name :: seen) rest

def resolveRules (names : List String) :
    List (Rule String) → Except GrammarError (List (Rule Ref))
  | [] => .ok []
  | rule :: rest =>
    match rule.body.resolve (refTo? names) with
    | .error reference => .error (.undefinedRule rule.name reference)
    | .ok body => (resolveRules names rest).map (⟨rule.name, body⟩ :: ·)

theorem nodup_of_firstRepeated? {seen names : List String}
    (none : firstRepeated? seen names = none) :
    names.Nodup ∧ ∀ name ∈ names, name ∉ seen := by
  induction names generalizing seen with
  | nil => simp
  | cons name rest ih =>
    simp only [firstRepeated?] at none
    split at none
    next => contradiction
    next fresh =>
      obtain ⟨nodup, apart⟩ := ih none
      refine ⟨List.nodup_cons.mpr ⟨fun member => ?_, nodup⟩, fun other member => ?_⟩
      · exact apart name member (List.mem_cons_self ..)
      · rcases List.mem_cons.mp member with rfl | later
        · exact fresh
        · exact fun there => apart other later (List.mem_cons_of_mem _ there)

theorem name_of_refTo? {names : List String} {name : String} {ref : Ref}
    (found : refTo? names name = some ref) : names[ref.id]? = some ref.name := by
  obtain ⟨id, place, rfl⟩ := Option.map_eq_some_iff.mp found
  obtain ⟨bound, equal, _⟩ := List.idxOf?_eq_some_iff.mp place
  exact List.getElem?_eq_some_iff.mpr ⟨bound, by simpa using equal⟩

theorem names_of_resolveRules {names : List String} {rules : List (Rule String)}
    {resolved : List (Rule Ref)} (done : resolveRules names rules = .ok resolved) :
    resolved.map Rule.name = rules.map Rule.name := by
  induction rules generalizing resolved with
  | nil => obtain rfl := Except.ok.inj done; rfl
  | cons rule rest ih =>
    simp only [resolveRules] at done
    split at done
    next => contradiction
    next body _ =>
      cases inner : resolveRules names rest with
      | error e => simp [inner, Except.map] at done
      | ok others =>
        simp only [inner, Except.map, Except.ok.injEq] at done
        subst done
        simp [ih inner]

theorem found_of_resolveRules {names : List String} {rules : List (Rule String)}
    {resolved : List (Rule Ref)} (done : resolveRules names rules = .ok resolved) :
    ∀ rule ∈ resolved, ∀ ref ∈ rule.body.references, names[ref.id]? = some ref.name := by
  induction rules generalizing resolved with
  | nil => obtain rfl := Except.ok.inj done; simp
  | cons rule rest ih =>
    simp only [resolveRules] at done
    split at done
    next => contradiction
    next body equal =>
      cases inner : resolveRules names rest with
      | error e => simp [inner, Except.map] at done
      | ok others =>
        simp only [inner, Except.map, Except.ok.injEq] at done
        subst done
        intro rule' member ref refMember
        rcases List.mem_cons.mp member with rfl | later
        · obtain ⟨target, found⟩ := Expr.found_of_resolve equal ref refMember
          exact name_of_refTo? found
        · exact ih inner rule' later ref refMember

/-- Builds a grammar that starts with its first production. -/
def ofRules (rules : List (Rule String)) : Except GrammarError Grammar :=
  if empty : rules = [] then .error .noRules
  else
    match repeated : firstRepeated? [] (rules.map Rule.name) with
    | some name => .error (.repeatedRule name)
    | none =>
      match done : resolveRules (rules.map Rule.name) rules with
      | .error error => .error error
      | .ok resolved =>
        have names := names_of_resolveRules done
        .ok {
          rules := resolved
          start := 0
          names_nodup := names ▸ (nodup_of_firstRepeated? repeated).1
          start_lt := by
            have := congrArg List.length names
            simp only [List.length_map] at this
            exact this ▸ List.length_pos_iff.mpr empty
          resolved := fun rule member ref refMember => by
            rw [← List.getElem?_map, names]
            exact found_of_resolveRules done rule member ref refMember }

/-- The place of the production of a name. -/
def ruleId? (grammar : Grammar) (name : String) : Option Nat :=
  place? (grammar.rules.map Rule.name) name

def rule? (grammar : Grammar) (name : String) : Option (Rule Ref) :=
  grammar.rules.find? (·.name == name)

def startRule (grammar : Grammar) : Rule Ref := grammar.rules.get ⟨grammar.start, grammar.start_lt⟩

theorem lt_of_ruleId? {grammar : Grammar} {name : String} {id : Nat}
    (found : grammar.ruleId? name = some id) : id < grammar.rules.length := by
  obtain ⟨bound, _⟩ := List.idxOf?_eq_some_iff.mp found
  simpa using bound

/-- Makes the production of a name the start production. -/
def withStart (grammar : Grammar) (name : String) : Except GrammarError Grammar :=
  match found : grammar.ruleId? name with
  | some id => .ok { grammar with start := id, start_lt := lt_of_ruleId? found }
  | none => .error (.unknownStart name)

/-- To begin with the start production changes nothing. -/
theorem withStart_start {grammar : Grammar} {name : String}
    (found : grammar.ruleId? name = some grammar.start) : grammar.withStart name = .ok grammar := by
  unfold withStart
  split
  next id same =>
    obtain rfl := Option.some.inj (found.symm.trans same)
    rfl
  next none => simp [found] at none

/-- Adds labels whose nodes are spliced into their parent after parsing. -/
def withFlatten (grammar : Grammar) (labels : List String) : Grammar :=
  { grammar with flatten := grammar.flatten.insertAll labels }

/-- Adds labels that are left out of phrase lists. -/
def withHidden (grammar : Grammar) (labels : List String) : Grammar :=
  { grammar with hidden := grammar.hidden.insertAll labels }

/-! ## Texts -/

def direct (grammar : Grammar) : Directive → Except GrammarError Grammar
  | .start rule => grammar.withStart rule
  | .flatten labels => .ok (grammar.withFlatten labels)
  | .hide labels => .ok (grammar.withHidden labels)

/-- The grammar that a grammar text describes; directives apply in their order. -/
def ofText (text : GrammarText) : Except GrammarError Grammar := do
  text.directives.foldlM direct (← ofRules text.rules)

def read (text : String) : Except GrammarError Grammar := do
  ofText (← GrammarText.read text.toList)

theorem read_eq_ok {text : String} {said : GrammarText} {built grammar : Grammar}
    (statements : GrammarText.read text.toList = .ok said) (rules : ofRules said.rules = .ok built)
    (directives : said.directives.foldlM direct built = .ok grammar) : read text = .ok grammar := by
  simp [read, ofText, statements, rules, directives, bind, Except.bind]

/-- The line of a directive; a set without labels has none. -/
def writeLabels (directive : String) (set : LabelSet) : String :=
  match set.labels with
  | [] => ""
  | labels => "%" ++ directive ++ " " ++ String.intercalate " " labels ++ ";\n"

/-- The grammar text of a grammar: the directives, then a line for each production. -/
def display (grammar : Grammar) : String :=
  "%start " ++ grammar.startRule.name ++ ";\n" ++ writeLabels "flatten" grammar.flatten ++
    writeLabels "hide" grammar.hidden ++
    String.join (grammar.rules.map fun rule => String.ofList (rule.write Ref.name) ++ "\n")

end Grammar

end Constituency
