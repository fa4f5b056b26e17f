import Constituency.Accepted
import Constituency.Proofs.Grammar.Reading
import Constituency.Proofs.Grammar.Writing
import Mathlib.Data.List.Nodup

/-!
# Printed grammars can be read again

A grammar says a text of its own: its rules with the names of its references, the name of its start
and its sets of labels. Building that text gives the grammar, because names are distinct and sets
are kept in order, and the printed form is in the language and says that text. So a grammar is read
from its printed form as it was, whenever the written forms of its bodies are in the language.
-/
namespace Constituency

open Constituency.Text

namespace Grammar

/-! ### The text of a grammar -/

/-- The directives for a set of labels; a set without labels has none. -/
def labelDirectives (directive : List String → Directive) (set : LabelSet) : List Directive :=
  match set.labels with
  | [] => []
  | labels => [directive labels]

/-- What the printed form of a grammar says. -/
def text (grammar : Grammar) : GrammarText where
  rules := grammar.rules.map fun rule => ⟨rule.name, rule.body.mapRefs Ref.name⟩
  directives := .start grammar.startRule.name ::
    (labelDirectives .flatten grammar.flatten ++ labelDirectives .hide grammar.hidden)

/-! ### Building it again -/

theorem ext_data {grammar other : Grammar} (rules : grammar.rules = other.rules)
    (start : grammar.start = other.start) (flatten : grammar.flatten = other.flatten)
    (hidden : grammar.hidden = other.hidden) : grammar = other := by
  obtain ⟨_, _, _, _⟩ := grammar
  obtain ⟨_, _, _, _⟩ := other
  obtain rfl := rules
  obtain rfl := start
  obtain rfl := flatten
  obtain rfl := hidden
  rfl

theorem firstRepeated?_eq_none {seen names : List String} (nodup : names.Nodup)
    (apart : ∀ name ∈ names, name ∉ seen) : firstRepeated? seen names = none := by
  induction names generalizing seen with
  | nil => rfl
  | cons name rest ih =>
    obtain ⟨fresh, nodup⟩ := List.nodup_cons.mp nodup
    rw [firstRepeated?, if_neg (apart name (List.mem_cons_self ..))]
    refine ih nodup fun other member => ?_
    refine List.not_mem_cons_of_ne_of_not_mem ?_ (apart other (List.mem_cons_of_mem _ member))
    rintro rfl
    exact fresh member

/-- Where names do not repeat, each is found at its place. -/
theorem place?_eq_some {names : List String} (nodup : names.Nodup) {id : Nat} {name : String}
    (there : names[id]? = some name) : place? names name = some id := by
  obtain ⟨bound, equal⟩ := List.getElem?_eq_some_iff.mp there
  refine List.idxOf?_eq_some_iff.mpr ⟨bound, equal, fun other less same => ?_⟩
  exact Nat.ne_of_lt less ((List.Nodup.getElem_inj_iff nodup).mp (same.trans equal.symm))

theorem getElem?_of_place? {names : List String} {name : String} {id : Nat}
    (found : place? names name = some id) : names[id]? = some name := by
  obtain ⟨bound, equal, -⟩ := List.idxOf?_eq_some_iff.mp found
  exact List.getElem?_eq_some_iff.mpr ⟨bound, by simpa using equal⟩

theorem refTo?_eq_some (grammar : Grammar) {rule : Rule Ref} (member : rule ∈ grammar.rules)
    {ref : Ref} (refers : ref ∈ rule.body.references) :
    refTo? (grammar.rules.map Rule.name) ref.name = some ref := by
  have there := grammar.resolved rule member ref refers
  rw [← List.getElem?_map] at there
  rw [refTo?, place?_eq_some grammar.names_nodup there]
  rfl

theorem resolveRules_map {names : List String} {rules : List (Rule Ref)}
    (found : ∀ rule ∈ rules, ∀ ref ∈ rule.body.references, refTo? names ref.name = some ref) :
    resolveRules names (rules.map fun rule => ⟨rule.name, rule.body.mapRefs Ref.name⟩) =
      .ok rules := by
  induction rules with
  | nil => rfl
  | cons rule rest ih =>
    have head := Expr.resolve_mapRefs (found rule (List.mem_cons_self ..))
    have tail := ih fun other member => found other (List.mem_cons_of_mem _ member)
    simp [resolveRules, head, tail, Except.map]

/-- Rules with different names whose references all resolve build a grammar. -/
theorem ofRules_eq_ok {rules : List (Rule String)} {resolved : List (Rule Ref)}
    (some : rules ≠ []) (nodup : (rules.map Rule.name).Nodup)
    (found : resolveRules (rules.map Rule.name) rules = .ok resolved) :
    ∃ built, ofRules rules = .ok built ∧ built.rules = resolved ∧ built.flatten = {} ∧
      built.hidden = {} := by
  have once : firstRepeated? [] (rules.map Rule.name) = none :=
    firstRepeated?_eq_none nodup (by simp)
  unfold ofRules
  rw [dif_neg some]
  split
  next repeated => exact absurd (once.symm.trans repeated) (by simp)
  next =>
    split
    next failed => exact absurd (found.symm.trans failed) (by simp)
    next done => exact ⟨_, rfl, Except.ok.inj (done.symm.trans found), rfl, rfl⟩

theorem ofRules_text (grammar : Grammar) :
    ∃ built, ofRules grammar.text.rules = .ok built ∧ built.rules = grammar.rules ∧
      built.flatten = {} ∧ built.hidden = {} := by
  have names : grammar.text.rules.map Rule.name = grammar.rules.map Rule.name := by
    simp [text]
  have some : grammar.text.rules ≠ [] := by
    have := grammar.start_lt
    simp only [text, ne_eq, List.map_eq_nil_iff]
    rintro none
    simp [none] at this
  have resolved : resolveRules (grammar.text.rules.map Rule.name) grammar.text.rules =
      .ok grammar.rules := by
    rw [names]
    exact resolveRules_map fun rule member ref refers => grammar.refTo?_eq_some member refers
  exact ofRules_eq_ok some (names ▸ grammar.names_nodup) resolved

theorem withStart_eq_ok {grammar : Grammar} {name : String} {id : Nat}
    (there : grammar.ruleId? name = some id) :
    ∃ started, grammar.withStart name = .ok started ∧ started.rules = grammar.rules ∧
      started.start = id ∧ started.flatten = grammar.flatten ∧
      started.hidden = grammar.hidden := by
  unfold withStart
  split
  next found =>
    obtain rfl := Option.some.inj (there.symm.trans found)
    exact ⟨_, rfl, rfl, rfl, rfl, rfl⟩
  next missing => exact absurd (there.symm.trans missing) (by simp)

theorem withStart_startRule (grammar : Grammar) {other : Grammar}
    (same : other.rules = grammar.rules) :
    ∃ started, other.withStart grammar.startRule.name = .ok started ∧
      started.rules = other.rules ∧ started.start = grammar.start ∧
      started.flatten = other.flatten ∧ started.hidden = other.hidden := by
  apply withStart_eq_ok
  rw [ruleId?, same]
  refine place?_eq_some grammar.names_nodup ?_
  simp [startRule, grammar.start_lt]

/-- The directives for a set add its labels, and where there are none nothing is to be added. -/
theorem foldlM_labelDirectives (directive : List String → Directive)
    (add : Grammar → List String → Grammar)
    (adds : ∀ grammar labels, direct grammar (directive labels) = .ok (add grammar labels))
    (addsNone : ∀ grammar, add grammar [] = grammar) (grammar : Grammar) (set : LabelSet) :
    (labelDirectives directive set).foldlM direct grammar = .ok (add grammar set.labels) := by
  unfold labelDirectives
  split
  next empty =>
    rw [empty, addsNone]
    rfl
  next => simp [adds, bind, Except.bind, pure, Except.pure]

/-- A grammar is what its text describes. -/
theorem ofText_text (grammar : Grammar) : ofText grammar.text = .ok grammar := by
  obtain ⟨built, done, rules, flatten, hidden⟩ := grammar.ofRules_text
  obtain ⟨started, begun, rules', start, flatten', hidden'⟩ := grammar.withStart_startRule rules
  have first := foldlM_labelDirectives .flatten withFlatten (fun _ _ => rfl) (fun _ => rfl)
    started grammar.flatten
  have second := foldlM_labelDirectives .hide withHidden (fun _ _ => rfl) (fun _ => rfl)
    (started.withFlatten grammar.flatten.labels) grammar.hidden
  have whole : (started.withFlatten grammar.flatten.labels).withHidden grammar.hidden.labels =
      grammar := by
    refine ext_data (rules'.trans rules) start ?_ ?_
    -- Both sets are empty when the directives begin, and each directive fills one of them.
    · rw [withHidden, withFlatten, flatten', flatten, grammar.flatten.insertAll_labels]
    · rw [withHidden, withFlatten, hidden', hidden, grammar.hidden.insertAll_labels]
  have started' : direct built (.start grammar.startRule.name) = .ok started := begun
  rw [ofText, done]
  simp only [bind, Except.bind]
  rw [text, List.foldlM_cons, started']
  simp only [bind, Except.bind, List.foldlM_append, first, second, whole]

end Grammar

/-! ### What is printed -/

namespace GrammarText

theorem Says.gap {text next : List Char} {said : GrammarText} (derived : Says next said)
    (gap : Gap text next) : Says text said := by
  cases derived with
  | nothing more => exact .nothing (gap.trans more)
  | rule more first others => exact .rule (gap.trans more) first others
  | directive more first others => exact .directive (gap.trans more) first others

/-- Symbols with a space in front of each. -/
theorem symbolsAt_intercalate {labels : List String} {rest : List Char} (some : labels ≠ [])
    (symbols : ∀ label ∈ labels, isSymbol label.toList = true) (breaks : Breaks rest) :
    SymbolsAt (' ' :: ((" ".intercalate labels).toList ++ rest)) labels rest := by
  match labels with
  | [label] =>
    have symbol := symbolAt_of_isSymbol (symbols label (List.mem_singleton_self _)) breaks
    simpa using SymbolsAt.more (.space _) symbol (.none _)
  | label :: next :: others =>
    have tail := symbolsAt_intercalate (List.cons_ne_nil next others)
      (fun label member => symbols label (List.mem_cons_of_mem _ member)) breaks
    have blank : Breaks (' ' :: ((" ".intercalate (next :: others)).toList ++ rest)) :=
      breaks_cons rfl
    have head := symbolAt_of_isSymbol (symbols label (List.mem_cons_self ..)) blank
    simpa [String.intercalate_cons_cons] using SymbolsAt.more (.space _) head tail

/-- The line of a directive. -/
theorem directiveAt_write {kind : String} {labels : List String} {directive : Directive}
    (form : Directs kind labels directive) (some : labels ≠ [])
    (symbols : ∀ label ∈ labels, isSymbol label.toList = true) (rest : List Char) :
    DirectiveAt (("%" ++ kind ++ " " ++ " ".intercalate labels ++ ";\n").toList ++ rest) directive
      ('\n' :: rest) := by
  have ended : Breaks (';' :: '\n' :: rest) := breaks_cons rfl
  have listed := symbolsAt_intercalate some symbols ended
  have word : isWord isNameChar isNameChar kind.toList = true := by cases form <;> decide
  have named : NameAt
      (kind.toList ++ ' ' :: ((" ".intercalate labels).toList ++ ';' :: '\n' :: rest))
      (String.ofList kind.toList) _ := .intro word (by rintro _ ⟨⟩; decide)
  rw [String.ofList_toList] at named
  simpa using DirectiveAt.intro named listed (.none _) form

theorem symbolAt_write {ρ : Type} {name : ρ → String} {rule : Rule ρ}
    (symbol : isSymbol rule.name.toList = true) (rest : List Char) :
    SymbolAt (rule.write name ++ rest) rule.name
      (' ' :: '-' :: '>' :: ' ' :: (rule.body.write name ++ ';' :: rest)) := by
  simpa [Rule.write] using symbolAt_of_isSymbol symbol (breaks_cons (c := ' ') rfl)

theorem ruleAt_write {ρ : Type} {name : ρ → String} {rule : Rule ρ}
    (symbol : isSymbol rule.name.toList = true) (fits : Fits name rule.body)
    (unstacked : rule.body.isUnstacked = true) (rest : List Char) :
    RuleAt (rule.write name ++ rest) ⟨rule.name, rule.body.mapRefs name⟩ rest := by
  have ended : Breaks (';' :: rest) := breaks_cons rfl
  have body := (sequenceAt_write fits unstacked ended).gap (.space _)
  exact .intro (symbolAt_write symbol rest) (.space _) (.single (.last body)) (.none _)

/-- Rules with a line for each. -/
theorem says_rules {ρ : Type} {name : ρ → String} {rules : List (Rule ρ)}
    (symbols : ∀ rule ∈ rules, isSymbol rule.name.toList = true)
    (fits : ∀ rule ∈ rules, Fits name rule.body)
    (unstacked : ∀ rule ∈ rules, rule.body.isUnstacked = true) :
    Says (String.join (rules.map fun rule => String.ofList (rule.write name) ++ "\n")).toList
      ⟨rules.map fun rule => ⟨rule.name, rule.body.mapRefs name⟩, []⟩ := by
  induction rules with
  | nil => exact .nothing (.none _)
  | cons rule others ih =>
    obtain ⟨symbol, symbols⟩ := List.forall_mem_cons.mp symbols
    obtain ⟨fit, fits⟩ := List.forall_mem_cons.mp fits
    obtain ⟨first, unstacked⟩ := List.forall_mem_cons.mp unstacked
    have line := ruleAt_write symbol fit first
    have later := ih symbols fits unstacked
    simpa using Says.rule (.none _) (line _) (later.gap (.lineFeed _))

end GrammarText

namespace Grammar

open GrammarText

/--
Whether the parts of a grammar have the form that they have in texts: names and labels are symbols,
and so on for the bodies.
-/
structure IsFormed (grammar : Grammar) : Prop where
  names : ∀ rule ∈ grammar.rules, isSymbol rule.name.toList = true
  flatten : ∀ label ∈ grammar.flatten, isSymbol label.toList = true
  hidden : ∀ label ∈ grammar.hidden, isSymbol label.toList = true
  bodies : ∀ rule ∈ grammar.rules, rule.body.IsFormed

instance (grammar : Grammar) : Decidable grammar.IsFormed :=
  decidable_of_iff
    ((∀ rule ∈ grammar.rules, isSymbol rule.name.toList = true) ∧
      (∀ label ∈ grammar.flatten.labels, isSymbol label.toList = true) ∧
      (∀ label ∈ grammar.hidden.labels, isSymbol label.toList = true) ∧
      ∀ rule ∈ grammar.rules, rule.body.IsFormed)
    ⟨fun ⟨names, flatten, hidden, bodies⟩ => ⟨names, flatten, hidden, bodies⟩,
      fun formed => ⟨formed.names, formed.flatten, formed.hidden, formed.bodies⟩⟩

/-- Whether no body of a grammar applies a suffix to a body that has one itself. -/
def IsUnstacked (grammar : Grammar) : Prop := ∀ rule ∈ grammar.rules, rule.body.isUnstacked = true

instance (grammar : Grammar) : Decidable grammar.IsUnstacked :=
  inferInstanceAs (Decidable (∀ rule ∈ grammar.rules, rule.body.isUnstacked = true))

theorem IsFormed.fits {grammar : Grammar} (formed : grammar.IsFormed) {rule : Rule Ref}
    (member : rule ∈ grammar.rules) : Fits Ref.name rule.body where
  formed := formed.bodies rule member
  symbols := fun ref refers => by
    obtain ⟨named, there, same⟩ := Option.map_eq_some_iff.mp
      (grammar.resolved rule member ref refers)
    exact same ▸ formed.names named (List.mem_of_getElem? there)

theorem says_writeLabels {kind : String} {directive : List String → Directive}
    (form : ∀ labels, Directs kind labels (directive labels)) {set : LabelSet}
    (symbols : ∀ label ∈ set, isSymbol label.toList = true) {rest : List Char}
    {said : GrammarText} (others : Says rest said) :
    Says ((writeLabels kind set).toList ++ rest)
      ⟨said.rules, labelDirectives directive set ++ said.directives⟩ := by
  cases listed : set.labels with
  | nil => simpa [writeLabels, labelDirectives, listed] using others
  | cons label labels =>
    have line := directiveAt_write (form set.labels) (listed ▸ List.cons_ne_nil _ _) symbols rest
    have whole := Says.directive (.none _) line (others.gap (.lineFeed _))
    simpa [writeLabels, labelDirectives, listed] using whole

theorem toList_display (grammar : Grammar) : grammar.display.toList =
    ("%start " ++ grammar.startRule.name ++ ";\n").toList ++
      ((writeLabels "flatten" grammar.flatten).toList ++
        ((writeLabels "hide" grammar.hidden).toList ++
          (String.join (grammar.rules.map fun rule =>
            String.ofList (rule.write Ref.name) ++ "\n")).toList)) := by
  simp [display]

theorem IsFormed.startLine {grammar : Grammar} (formed : grammar.IsFormed) (rest : List Char) :
    DirectiveAt (("%start " ++ grammar.startRule.name ++ ";\n").toList ++ rest)
      (.start grammar.startRule.name) ('\n' :: rest) := by
  have symbol := formed.names grammar.startRule (List.get_mem ..)
  have line := directiveAt_write (.start grammar.startRule.name) (List.cons_ne_nil _ _)
    (by simpa using symbol) rest
  simpa using line

/-- The printed form of a grammar is a text that says what the grammar says. -/
theorem says_display {grammar : Grammar} (formed : grammar.IsFormed)
    (unstacked : grammar.IsUnstacked) : Says grammar.display.toList grammar.text := by
  have rules := says_rules formed.names (fun _ member => formed.fits member) unstacked
  have hidden := says_writeLabels Directs.hide formed.hidden rules
  have flatten := says_writeLabels Directs.flatten formed.flatten hidden
  have start := Says.directive (.none _) (formed.startLine _) (flatten.gap (.lineFeed _))
  rw [toList_display]
  simpa [text] using start

theorem read_of_says {grammar : Grammar} (derived : Says grammar.display.toList grammar.text) :
    read grammar.display = .ok grammar := by
  rw [read, derived.read_eq]
  exact grammar.ofText_text

/--
A grammar whose parts have the form of texts is read from its printed form as it was, its rules,
its start and its sets of labels, however deep its sequences, choices and suffixed groups nest.
-/
theorem read_display (grammar : Grammar) (formed : grammar.IsFormed)
    (unstacked : grammar.IsUnstacked) : read grammar.display = .ok grammar :=
  read_of_says (says_display formed unstacked)

/-- Groups in groups with and without suffixes, labels, and a start behind the first production. -/
def nestedGroups : Grammar :=
  let group : Expr String := .seq [.ref "A", .seq [.opt (.ref "S"), .ref "A"]]
  let choice : Expr String := .longest [group, .longest [.plus group, .ref "A"]]
  let rules : List (Rule String) := [
    ⟨"A", .terminal (.of "N.*")⟩,
    ⟨"S", .seq [.star choice, .longest [.ref "A", .opt (.seq [.plus choice, .ref "A"])]]⟩]
  let built := accepted ((Grammar.of rules).withStart "S") (by decide +kernel)
  (built.withFlatten ["S", "B1"]).withHidden ["A"]

theorem read_display_nestedGroups : nestedGroups.IsFormed ∧ nestedGroups.IsUnstacked ∧
    read nestedGroups.display = .ok nestedGroups := by
  have formed : nestedGroups.IsFormed := by decide +kernel
  have unstacked : nestedGroups.IsUnstacked := by decide +kernel
  exact ⟨formed, unstacked, read_display nestedGroups formed unstacked⟩

end Grammar

end Constituency
