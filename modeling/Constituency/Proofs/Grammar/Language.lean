import Constituency.Grammar.Reader
import Constituency.Proofs.Text.Lexeme

/-!
# The language of grammar texts

The form of a grammar text as relations between a text, what stands in its front, and the rest of
it. Gaps may stand between the statements, around the items of a body and in front of whatever ends
one; a suffix stands right behind its atom, and the name of a directive right behind its percent
sign. Nothing here depends on how a text is read.
-/
namespace Constituency.GrammarText

open Constituency.Text

/-! ### Bodies -/

/-- What may stand between the slashes of a tag pattern. -/
structure IsSource (source : List Char) : Prop where
  nonempty : source ≠ []
  noSlash : '/' ∉ source
  oneLine : '\n' ∉ source

mutual

/-- A symbol, a tag pattern between slashes, or a body in parentheses, which stands for itself. -/
inductive AtomAt : List Char → Expr String → List Char → Prop
  | symbol {text rest : List Char} {name : String} (symbol : SymbolAt text name rest) :
    AtomAt text (.ref name) rest
  | pattern {source rest : List Char} {pattern : Pattern} (form : IsSource source)
    (read : Pattern.read (String.ofList source) = .ok pattern) :
    AtomAt ('/' :: source ++ '/' :: rest) (.terminal pattern) rest
  | group {text behind rest : List Char} {body : Expr String} (inside : BodyAt text body behind)
    (close : Gap behind (')' :: rest)) : AtomAt ('(' :: text) body rest

/-- An atom with at most one suffix right behind it. -/
inductive ItemAt : List Char → Expr String → List Char → Prop
  | plain {text rest : List Char} {body : Expr String} (atom : AtomAt text body rest) :
    ItemAt text body rest
  | opt {text rest : List Char} {body : Expr String} (atom : AtomAt text body ('?' :: rest)) :
    ItemAt text (.opt body) rest
  | star {text rest : List Char} {body : Expr String} (atom : AtomAt text body ('*' :: rest)) :
    ItemAt text (.star body) rest
  | plus {text rest : List Char} {body : Expr String} (atom : AtomAt text body ('+' :: rest)) :
    ItemAt text (.plus body) rest

/-- Any number of items. -/
inductive ItemsAt : List Char → List (Expr String) → List Char → Prop
  | none (rest : List Char) : ItemsAt rest [] rest
  | more {text next behind rest : List Char} {item : Expr String} {items : List (Expr String)}
    (gap : Gap text next) (first : ItemAt next item behind) (others : ItemsAt behind items rest) :
    ItemsAt text (item :: items) rest

/-- One item, which stands for itself, or a sequence of several. -/
inductive SequenceAt : List Char → Expr String → List Char → Prop
  | single {text rest : List Char} {item : Expr String} (only : ItemsAt text [item] rest) :
    SequenceAt text item rest
  | several {text rest : List Char} {first second : Expr String} {others : List (Expr String)}
    (items : ItemsAt text (first :: second :: others) rest) :
    SequenceAt text (.seq (first :: second :: others)) rest

/-- One or more alternatives with bars between them. -/
inductive AlternativesAt : List Char → List (Expr String) → List Char → Prop
  | last {text rest : List Char} {alternative : Expr String}
    (only : SequenceAt text alternative rest) : AlternativesAt text [alternative] rest
  | more {text behind next rest : List Char} {alternative : Expr String}
    {alternatives : List (Expr String)} (first : SequenceAt text alternative behind)
    (bar : Gap behind ('|' :: next)) (others : AlternativesAt next alternatives rest) :
    AlternativesAt text (alternative :: alternatives) rest

/-- One alternative, which stands for itself, or a choice of several. -/
inductive BodyAt : List Char → Expr String → List Char → Prop
  | single {text rest : List Char} {alternative : Expr String}
    (only : AlternativesAt text [alternative] rest) : BodyAt text alternative rest
  | several {text rest : List Char} {first second : Expr String} {others : List (Expr String)}
    (alternatives : AlternativesAt text (first :: second :: others) rest) :
    BodyAt text (.longest (first :: second :: others)) rest

end

/-! ### Statements -/

/-- A symbol, an arrow, a body and a semicolon. -/
inductive RuleAt : List Char → Rule String → List Char → Prop
  | intro {text behindName next behind rest : List Char} {name : String} {body : Expr String}
    (symbol : SymbolAt text name behindName) (arrow : Gap behindName ('-' :: '>' :: next))
    (inside : BodyAt next body behind) (close : Gap behind (';' :: rest)) :
    RuleAt text ⟨name, body⟩ rest

/-- Any number of symbols. -/
inductive SymbolsAt : List Char → List String → List Char → Prop
  | none (rest : List Char) : SymbolsAt rest [] rest
  | more {text next behind rest : List Char} {symbol : String} {symbols : List String}
    (gap : Gap text next) (first : SymbolAt next symbol behind)
    (others : SymbolsAt behind symbols rest) : SymbolsAt text (symbol :: symbols) rest

/-- The directives: only the one that sets the start is bound to a number of symbols. -/
inductive Directs : String → List String → Directive → Prop
  | start (rule : String) : Directs "start" [rule] (.start rule)
  | flatten (labels : List String) : Directs "flatten" labels (.flatten labels)
  | hide (labels : List String) : Directs "hide" labels (.hide labels)

/-- A percent sign, a name right behind it, symbols and a semicolon. -/
inductive DirectiveAt : List Char → Directive → List Char → Prop
  | intro {text behindName behind rest : List Char} {name : String} {arguments : List String}
    {directive : Directive} (named : NameAt text name behindName)
    (symbols : SymbolsAt behindName arguments behind) (close : Gap behind (';' :: rest))
    (form : Directs name arguments directive) : DirectiveAt ('%' :: text) directive rest

/-- The text is a sequence of statements, and these are its rules and its directives in order. -/
inductive Says : List Char → GrammarText → Prop
  | nothing {text : List Char} (gap : Gap text []) : Says text ⟨[], []⟩
  | rule {text next rest : List Char} {rule : Rule String} {said : GrammarText}
    (gap : Gap text next) (first : RuleAt next rule rest) (others : Says rest said) :
    Says text ⟨rule :: said.rules, said.directives⟩
  | directive {text next rest : List Char} {directive : Directive} {said : GrammarText}
    (gap : Gap text next) (first : DirectiveAt next directive rest) (others : Says rest said) :
    Says text ⟨said.rules, directive :: said.directives⟩

/-! ### Lengths -/

-- A step down a derivation that passes no character goes to a relation further up in this block.
mutual

theorem AtomAt.length_lt {text rest : List Char} {atom : Expr String}
    (derived : AtomAt text atom rest) : rest.length < text.length := by
  cases derived with
  | symbol symbol => exact symbol.length_lt
  | pattern => simp only [List.length_append, List.length_cons]; omega
  | group inside close =>
    have shorter : rest.length < _ := close.length_le
    exact Nat.lt_succ_of_lt (Nat.lt_trans shorter inside.length_lt)
termination_by 6 * text.length

theorem ItemAt.length_lt {text rest : List Char} {item : Expr String}
    (derived : ItemAt text item rest) : rest.length < text.length := by
  cases derived with
  | plain atom => exact atom.length_lt
  | opt atom => exact Nat.lt_of_succ_lt atom.length_lt
  | star atom => exact Nat.lt_of_succ_lt atom.length_lt
  | plus atom => exact Nat.lt_of_succ_lt atom.length_lt
termination_by 6 * text.length + 1

theorem ItemsAt.length_le {text rest : List Char} {items : List (Expr String)}
    (derived : ItemsAt text items rest) :
    rest.length ≤ text.length ∧ (items ≠ [] → rest.length < text.length) := by
  cases derived with
  | none => exact ⟨Nat.le_refl _, fun some => absurd rfl some⟩
  | more gap first others =>
    have := gap.length_le
    have := first.length_lt
    have := others.length_le.1
    constructor <;> omega
termination_by 6 * text.length + 2

theorem SequenceAt.length_lt {text rest : List Char} {body : Expr String}
    (derived : SequenceAt text body rest) : rest.length < text.length := by
  cases derived with
  | single only => exact only.length_le.2 (List.cons_ne_nil _ _)
  | several items => exact items.length_le.2 (List.cons_ne_nil _ _)
termination_by 6 * text.length + 3

theorem AlternativesAt.length_lt {text rest : List Char} {alternatives : List (Expr String)}
    (derived : AlternativesAt text alternatives rest) : rest.length < text.length := by
  cases derived with
  | last only => exact only.length_lt
  | @more _ behind next _ _ _ first bar others =>
    have := first.length_lt
    have shorter : next.length < behind.length := bar.length_le
    have := others.length_lt
    omega
termination_by 6 * text.length + 4

theorem BodyAt.length_lt {text rest : List Char} {body : Expr String}
    (derived : BodyAt text body rest) : rest.length < text.length := by
  cases derived with
  | single only => exact only.length_lt
  | several alternatives => exact alternatives.length_lt
termination_by 6 * text.length + 5

end

theorem SymbolsAt.length_le {text rest : List Char} {symbols : List String}
    (derived : SymbolsAt text symbols rest) : rest.length ≤ text.length := by
  induction derived with
  | none => exact Nat.le_refl _
  | more gap first _ ih =>
    have := gap.length_le
    have := first.length_lt
    omega

theorem RuleAt.length_lt {text rest : List Char} {rule : Rule String}
    (derived : RuleAt text rule rest) : rest.length < text.length := by
  obtain ⟨symbol, arrow, inside, close⟩ := derived
  have := symbol.length_lt
  have := arrow.length_le
  have := inside.length_lt
  have := close.length_le
  simp only [List.length_cons] at *
  omega

theorem DirectiveAt.length_lt {text rest : List Char} {directive : Directive}
    (derived : DirectiveAt text directive rest) : rest.length < text.length := by
  obtain ⟨named, symbols, close, form⟩ := derived
  have := named.length_lt
  have := symbols.length_le
  have := close.length_le
  simp only [List.length_cons] at *
  omega

end Constituency.GrammarText
