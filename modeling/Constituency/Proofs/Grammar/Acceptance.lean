import Constituency.Proofs.Grammar.Refusal

/-!
# Grammars that were read

What a text says has the form of texts, and so has the grammar that is built from it: building
replaces references only, and takes every label from a directive. Such a grammar can be printed and
read again, unless a suffix stands on a body that has one.
-/
namespace Constituency

open Constituency.Text

/-- The labels that a directive adds to a set. -/
def Directive.labels : Directive → List String
  | .start _ => []
  | .flatten labels => labels
  | .hide labels => labels

namespace GrammarText

/-! ### What a text says -/

mutual

theorem AtomAt.isFormed {text rest : List Char} {body : Expr String}
    (derived : AtomAt text body rest) : body.IsFormed := by
  cases derived with
  | symbol symbol => trivial
  | @pattern source _ pattern form read =>
    have same := Pattern.source_of_read read
    simpa [Expr.IsFormed, same] using form
  | group inside close => exact inside.isFormed
termination_by 6 * text.length

theorem ItemAt.isFormed {text rest : List Char} {item : Expr String}
    (derived : ItemAt text item rest) : item.IsFormed := by
  cases derived with
  | plain atom => exact atom.isFormed
  | opt atom => exact atom.isFormed
  | star atom => exact atom.isFormed
  | plus atom => exact atom.isFormed
termination_by 6 * text.length + 1

theorem ItemsAt.areFormed {text rest : List Char} {items : List (Expr String)}
    (derived : ItemsAt text items rest) : Expr.AreFormed items := by
  cases derived with
  | none => trivial
  | more gap first others =>
    have := gap.length_le
    have := first.length_lt
    exact ⟨first.isFormed, others.areFormed⟩
termination_by 6 * text.length + 2

theorem SequenceAt.isFormed {text rest : List Char} {body : Expr String}
    (derived : SequenceAt text body rest) : body.IsFormed := by
  cases derived with
  | single only => exact only.areFormed.1
  | several items => exact ⟨by simp, items.areFormed⟩
termination_by 6 * text.length + 3

theorem AlternativesAt.areFormed {text rest : List Char} {alternatives : List (Expr String)}
    (derived : AlternativesAt text alternatives rest) : Expr.AreFormed alternatives := by
  cases derived with
  | last only => exact ⟨only.isFormed, trivial⟩
  | @more _ behind next _ _ _ first bar others =>
    have := first.length_lt
    have shorter : next.length < behind.length := bar.length_le
    exact ⟨first.isFormed, others.areFormed⟩
termination_by 6 * text.length + 4

theorem BodyAt.isFormed {text rest : List Char} {body : Expr String}
    (derived : BodyAt text body rest) : body.IsFormed := by
  cases derived with
  | single only => exact only.areFormed.1
  | several alternatives => exact ⟨by simp, alternatives.areFormed⟩
termination_by 6 * text.length + 5

end

theorem SymbolsAt.areSymbols {text rest : List Char} {symbols : List String}
    (derived : SymbolsAt text symbols rest) :
    ∀ symbol ∈ symbols, isSymbol symbol.toList = true := by
  induction derived with
  | none => simp
  | more gap first _ ih =>
    intro symbol member
    rcases List.mem_cons.mp member with rfl | later
    · exact first.isWord
    · exact ih symbol later

/-- Whether the parts of the statements have the form that they have in texts. -/
structure IsFormed (said : GrammarText) : Prop where
  names : ∀ rule ∈ said.rules, isSymbol rule.name.toList = true
  bodies : ∀ rule ∈ said.rules, rule.body.IsFormed
  labels : ∀ directive ∈ said.directives, ∀ label ∈ directive.labels,
    isSymbol label.toList = true

theorem DirectiveAt.areSymbols {text rest : List Char} {directive : Directive}
    (derived : DirectiveAt text directive rest) :
    ∀ label ∈ directive.labels, isSymbol label.toList = true := by
  obtain ⟨-, symbols, -, form⟩ := derived
  have given := symbols.areSymbols
  cases form with
  | start => simp [Directive.labels]
  | flatten => exact given
  | hide => exact given

theorem Says.isFormed {text : List Char} {said : GrammarText} (derived : Says text said) :
    said.IsFormed := by
  induction derived with
  | nothing gap => exact ⟨by simp, by simp, by simp⟩
  | rule gap first _ ih =>
    obtain ⟨symbol, -, inside, -⟩ := first
    exact ⟨List.forall_mem_cons.mpr ⟨symbol.isWord, ih.names⟩,
      List.forall_mem_cons.mpr ⟨inside.isFormed, ih.bodies⟩, ih.labels⟩
  | directive gap first _ ih =>
    exact ⟨ih.names, ih.bodies, List.forall_mem_cons.mpr ⟨first.areSymbols, ih.labels⟩⟩

end GrammarText

namespace Grammar

open GrammarText

/-! ### What is built from it -/

theorem map_of_resolveRules {names : List String} {rules : List (Rule String)}
    {resolved : List (Rule Ref)} (done : resolveRules names rules = .ok resolved) :
    resolved.map (fun rule => ⟨rule.name, rule.body.mapRefs Ref.name⟩) = rules := by
  induction rules generalizing resolved with
  | nil =>
    obtain rfl := Except.ok.inj done
    rfl
  | cons rule rest ih =>
    simp only [resolveRules] at done
    split at done
    next => contradiction
    next body equal =>
      obtain ⟨others, inner, rfl⟩ := map_eq_ok_iff.mp done
      have undone : body.mapRefs Ref.name = rule.body := by
        refine Expr.mapRefs_of_resolve (fun target found there => ?_) equal
        obtain ⟨_, -, rfl⟩ := Option.map_eq_some_iff.mp there
        rfl
      rw [List.map_cons, ih inner, undone]

theorem text_rules_of_ofRules {rules : List (Rule String)} {built : Grammar}
    (done : ofRules rules = .ok built) :
    built.text.rules = rules ∧ built.flatten = {} ∧ built.hidden = {} := by
  unfold ofRules at done
  split at done
  next => contradiction
  next =>
    split at done
    next => contradiction
    next =>
      split at done
      next => contradiction
      next resolved equal =>
        obtain rfl := Except.ok.inj done
        exact ⟨map_of_resolveRules equal, rfl, rfl⟩

theorem rules_of_withStart {grammar started : Grammar} {name : String}
    (done : grammar.withStart name = .ok started) :
    started.rules = grammar.rules ∧ grammar.ruleId? name = some started.start ∧
      started.flatten = grammar.flatten ∧ started.hidden = grammar.hidden := by
  unfold withStart at done
  split at done
  next found =>
    obtain rfl := Except.ok.inj done
    exact ⟨rfl, found, rfl, rfl⟩
  next => contradiction

theorem rules_of_direct {grammar next : Grammar} {directive : Directive}
    (done : direct grammar directive = .ok next) :
    next.rules = grammar.rules ∧
      (∀ label ∈ next.flatten, label ∈ grammar.flatten ∨ label ∈ directive.labels) ∧
      (∀ label ∈ next.hidden, label ∈ grammar.hidden ∨ label ∈ directive.labels) := by
  cases directive with
  | start rule =>
    have started : grammar.withStart rule = .ok next := done
    obtain ⟨rules, -, flatten, hidden⟩ := rules_of_withStart started
    exact ⟨rules, fun _ => flatten ▸ .inl, fun _ => hidden ▸ .inl⟩
  | flatten labels =>
    obtain rfl := Except.ok.inj done
    exact ⟨rfl, fun label member => (LabelSet.mem_insertAll.mp member).symm, fun _ => .inl⟩
  | hide labels =>
    obtain rfl := Except.ok.inj done
    exact ⟨rfl, fun _ => .inl, fun label member => (LabelSet.mem_insertAll.mp member).symm⟩

theorem rules_of_foldlM_direct {directives : List Directive} {grammar built : Grammar}
    (done : directives.foldlM direct grammar = .ok built) :
    built.rules = grammar.rules ∧
      (∀ label ∈ built.flatten,
        label ∈ grammar.flatten ∨ ∃ directive ∈ directives, label ∈ directive.labels) ∧
      (∀ label ∈ built.hidden,
        label ∈ grammar.hidden ∨ ∃ directive ∈ directives, label ∈ directive.labels) := by
  induction directives generalizing grammar with
  | nil =>
    obtain rfl := Except.ok.inj done
    exact ⟨rfl, fun _ => .inl, fun _ => .inl⟩
  | cons directive rest ih =>
    rw [List.foldlM_cons] at done
    obtain ⟨next, step, done⟩ := bind_eq_ok_iff.mp done
    obtain ⟨rules, flatten, hidden⟩ := rules_of_direct step
    obtain ⟨rules', flatten', hidden'⟩ := ih done
    refine ⟨rules'.trans rules, fun label member => ?_, fun label member => ?_⟩
    · have := flatten' label member
      have := flatten label
      grind
    · have := hidden' label member
      have := hidden label
      grind

theorem isFormed_of_ofText {said : GrammarText} {grammar : Grammar} (formed : said.IsFormed)
    (done : ofText said = .ok grammar) : grammar.IsFormed ∧ grammar.text.rules = said.rules := by
  obtain ⟨built, begun, done⟩ := bind_eq_ok_iff.mp done
  obtain ⟨rules, flatten, hidden⟩ := text_rules_of_ofRules begun
  obtain ⟨rules', flatten', hidden'⟩ := rules_of_foldlM_direct done
  have same : grammar.text.rules = said.rules := by rw [← rules, text, text, rules']
  have there {rule : Rule Ref} (member : rule ∈ grammar.rules) :
      ⟨rule.name, rule.body.mapRefs Ref.name⟩ ∈ said.rules :=
    same ▸ List.mem_map_of_mem member
  refine ⟨⟨fun rule member => ?_, fun label member => ?_, fun label member => ?_,
    fun rule member => ?_⟩, same⟩
  · exact formed.names _ (there member)
  · obtain inside | ⟨directive, given, inside⟩ := flatten' label member
    · exact absurd (flatten ▸ inside) (LabelSet.not_mem_empty label)
    · exact formed.labels directive given label inside
  · obtain inside | ⟨directive, given, inside⟩ := hidden' label member
    · exact absurd (hidden ▸ inside) (LabelSet.not_mem_empty label)
    · exact formed.labels directive given label inside
  · exact Expr.isFormed_of_mapRefs (formed.bodies _ (there member))

theorem isFormed_of_read {text : String} {grammar : Grammar} (done : read text = .ok grammar) :
    grammar.IsFormed := by
  obtain ⟨said, parsed, done⟩ := bind_eq_ok_iff.mp done
  exact (isFormed_of_ofText (says_of_read parsed).isFormed done).1

/--
The printed form of a grammar that was read can be read again exactly if no suffix stands on a body
that has one, and whatever is read from it is that grammar.
-/
theorem read_display_iff_isUnstacked {text : String} {grammar : Grammar}
    (done : read text = .ok grammar) :
    (read grammar.display = .ok grammar ↔ grammar.IsUnstacked) ∧
      ∀ other, read grammar.display = .ok other → other = grammar := by
  have formed := isFormed_of_read done
  have again (unstacked : grammar.IsUnstacked) : read grammar.display = .ok grammar :=
    read_of_says (says_display formed unstacked)
  have unstacked {other : Grammar} (reread : read grammar.display = .ok other) :
      grammar.IsUnstacked := by
    obtain ⟨said, parsed, -⟩ := bind_eq_ok_iff.mp reread
    exact isUnstacked_of_says formed (says_of_read parsed)
  refine ⟨⟨unstacked, again⟩, fun other reread => ?_⟩
  exact Except.ok.inj (reread.symm.trans (again (unstacked reread)))

/-- Groups with suffixes inside and outside, a comment in a directive, and a later start. -/
def suffixedText : String :=
  "%start T; %hide A // words\n B; S -> ((T | /X/)+ A?)* | (A); A -> /N.*/; T -> S T? | A;"

def suffixedGroups : Grammar := accepted (read suffixedText) (by decide +kernel)

theorem read_display_suffixedGroups : read suffixedText = .ok suffixedGroups ∧
    suffixedGroups.IsUnstacked ∧ read suffixedGroups.display = .ok suffixedGroups := by
  have done : read suffixedText = .ok suffixedGroups := eq_ok_accepted (by decide +kernel)
  have unstacked : suffixedGroups.IsUnstacked := by decide +kernel
  exact ⟨done, unstacked, (read_display_iff_isUnstacked done).1.mpr unstacked⟩

/-- A suffix on a group that holds nothing but a body with a suffix. -/
def stackedSuffixes : Grammar :=
  accepted (read "S -> (A?)*; A -> /X/;") (by decide +kernel)

/-- Its printed form has two suffixes in a row, and reading it fails. -/
theorem not_read_display_stackedSuffixes :
    read "S -> (A?)*; A -> /X/;" = .ok stackedSuffixes ∧
      stackedSuffixes.display = "%start S;\nS -> A?*;\nA -> /X/;\n" ∧
      ∀ other, read stackedSuffixes.display ≠ .ok other := by
  have refused : (read stackedSuffixes.display).isOk = false := by decide +kernel
  refine ⟨eq_ok_accepted (by decide +kernel), by decide +kernel, fun other reread => ?_⟩
  exact Bool.false_ne_true (refused.symm.trans (congrArg Except.isOk reread))

end Grammar

end Constituency
