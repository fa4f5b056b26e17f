import Constituency.Pattern
import Constituency.TagTable.PatternSpan
import Constituency.TagTable.Rename
import Constituency.Token

/-!
# Tag rules

A tag rule replaces a window of tokens. Its pattern has to match the joined window, and its
replacement is a template of new tokens, each with a tag that stands there literally. What is read
off the two texts (the span of the pattern, the base tag of the replacement) belongs to the type,
so every rule is one whose texts were accepted. The other fields tell readers and later stages what
the new tokens mean.
-/
namespace Constituency

open Constituency.Text

inductive TagRuleError where
  | pattern (source : String) (error : Regex.Error)
  | unevenAlternatives (source : String)
  | noLiteralTag (replacement part : String)
deriving DecidableEq, Repr

def TagRuleError.message : TagRuleError → String
  | .pattern source error => "pattern " ++ quoted source ++ ": " ++ error.message
  | .unevenAlternatives source =>
    "pattern " ++ quoted source ++ ": alternatives span different numbers of tokens"
  | .noLiteralTag replacement part =>
    "replacement " ++ quoted replacement ++ ": " ++ quoted part ++ " has no literal tag"

/-! ## Replacements -/

/-- The tag of one part of a replacement: not blank, and without references to groups. -/
def literalTag? (part : List Char) : Option (List Char) :=
  match splitLast ':' part with
  | some (_, tag) => if isBlankText tag || tag.contains '$' then none else some (trim tag)
  | none => none

/-- The tag of the last part, or the first part that has none. -/
def lastTag : List (List Char) → List Char → Except (List Char) (List Char)
  | [], last => .ok last
  | part :: rest, _ =>
    match literalTag? part with
    | some tag => lastTag rest tag
    | none => .error part

/-- The base tag of a replacement, or a part of it that has no literal tag. -/
def replacementBase (replacement : List Char) : Except (List Char) (List Char) :=
  lastTag (pieces ';' replacement) []

/-! ## Rules -/

structure TagRule where
  pattern : Pattern
  replacement : String
  /-- The tag of the replacement's last token. -/
  base : String
  /-- The number of tokens in a window. -/
  span : Nat
  /-- The part of speech under which the glossary lists the rule. -/
  pos : Option String := none
  label : Option String := none
  description : Option String := none
  rename : Option Rename := none
  refs : List String := []
  notes : Option String := none
  span_eq : patternSpan pattern.source.toList = some span
  base_eq : (replacementBase replacement.toList).map String.ofList = .ok base

namespace TagRule

/-- What is read off the texts of a rule does not tell it from another rule. -/
theorem ext_texts {rule other : TagRule} (pattern : rule.pattern = other.pattern)
    (replacement : rule.replacement = other.replacement) (pos : rule.pos = other.pos)
    (label : rule.label = other.label) (description : rule.description = other.description)
    (rename : rule.rename = other.rename) (refs : rule.refs = other.refs)
    (notes : rule.notes = other.notes) : rule = other := by
  have span : rule.span = other.span :=
    Option.some.inj (rule.span_eq.symm.trans (pattern ▸ other.span_eq))
  have base : rule.base = other.base :=
    Except.ok.inj (rule.base_eq.symm.trans (replacement ▸ other.base_eq))
  cases rule
  cases other
  simp_all

instance : DecidableEq TagRule := fun rule other =>
  decidable_of_iff (rule.pattern = other.pattern ∧ rule.replacement = other.replacement ∧
      rule.pos = other.pos ∧ rule.label = other.label ∧ rule.description = other.description ∧
      rule.rename = other.rename ∧ rule.refs = other.refs ∧ rule.notes = other.notes)
    ⟨fun ⟨pattern, replacement, pos, label, description, rename, refs, notes⟩ =>
        ext_texts pattern replacement pos label description rename refs notes,
      by rintro rfl; simp⟩

def ofTexts (pattern replacement : String) : Except TagRuleError TagRule :=
  match Pattern.read pattern with
  | .error error => .error (.pattern pattern error)
  | .ok read =>
    match span_eq : patternSpan read.source.toList with
    | none => .error (.unevenAlternatives pattern)
    | some span =>
      match base_eq : replacementBase replacement.toList with
      | .error part => .error (.noLiteralTag replacement (String.ofList part))
      | .ok base =>
        .ok {
          pattern := read
          replacement := replacement
          base := String.ofList base
          span := span
          span_eq := span_eq
          base_eq := by simp [base_eq, Except.map] }

def withPos (rule : TagRule) (pos : String) : TagRule := { rule with pos := some pos }

def withLabel (rule : TagRule) (label : String) : TagRule := { rule with label := some label }

def withDescription (rule : TagRule) (description : String) : TagRule :=
  { rule with description := some description }

def withRename (rule : TagRule) (rename : Rename) : TagRule :=
  { rule with rename := some rename }

/-- Adds references behind those there are. -/
def withRefs (rule : TagRule) (refs : List String) : TagRule :=
  { rule with refs := rule.refs ++ refs }

def withNotes (rule : TagRule) (notes : String) : TagRule := { rule with notes := some notes }

/-- The part of speech under which the glossary lists the rule: the base tag unless one is set. -/
def category (rule : TagRule) : String := rule.pos.getD rule.base

/-- Whether the tags of the rule have to be told apart: it renames, cites or has a label. -/
def isNumbered (rule : TagRule) : Bool :=
  rule.rename.isSome || !rule.refs.isEmpty || rule.label.isSome

/-- The tokens that replace a window, if the pattern matches it and the template gives any. -/
def replace? (rule : TagRule) (window : String) : Option (List Token) := do
  let captures ← rule.pattern.captures? window
  match readTokens (String.ofList (Template.expand rule.replacement.toList captures)) with
  | .ok [] => none
  | .ok tokens => some tokens
  | .error _ => none

theorem replace?_eq_some_iff {rule : TagRule} {window : String} {tokens : List Token} :
    rule.replace? window = some tokens ↔ ∃ captures, rule.pattern.captures? window = some captures ∧
      readTokens (String.ofList (Template.expand rule.replacement.toList captures)) = .ok tokens ∧
      tokens ≠ [] := by
  simp only [replace?, bind, Option.bind_eq_some_iff]
  refine exists_congr fun captures => and_congr_right fun _ => ?_
  split
  next read => simp [read]
  next others some read =>
    rw [read, Option.some.injEq, Except.ok.injEq, iff_self_and]
    rintro rfl
    exact some
  next read => simp [read]

/-- What a template gives is never empty. -/
theorem replacement_ne_nil {rule : TagRule} {window : String} {replacement : List Token}
    (found : rule.replace? window = some replacement) : replacement ≠ [] := by
  obtain ⟨captures, -, -, some⟩ := replace?_eq_some_iff.mp found
  exact some

theorem span_pos (rule : TagRule) : 0 < rule.span := by
  have read := rule.span_eq
  simp only [patternSpan, bind, Option.bind_eq_some_iff, pure, Option.some.injEq] at read
  obtain ⟨_, _, separators, _, equal⟩ := read
  exact equal ▸ Nat.succ_pos separators

theorem literalTag?_eq_some {part tag : List Char} (found : literalTag? part = some tag) :
    tag ≠ [] ∧ tag.Sublist part := by
  unfold literalTag? at found
  split at found
  next word text cut =>
    split at found
    next => contradiction
    next literal =>
      obtain rfl := Option.some.inj found
      refine ⟨fun empty => literal (by simp [trim_eq_nil_iff.mp empty]), ?_⟩
      rw [(splitLast_eq cut).1]
      exact (trim_sublist text).trans
        ((List.sublist_cons_self ':' text).trans (List.sublist_append_right word _))
  next => contradiction

/-- The tag that is taken last is that of one of the parts, if there are any. -/
theorem exists_part_of_lastTag {parts : List (List Char)} {last tag : List Char}
    (done : lastTag parts last = .ok tag) :
    tag = last ∧ parts = [] ∨ ∃ part ∈ parts, literalTag? part = some tag := by
  induction parts generalizing last with
  | nil =>
    obtain rfl := Except.ok.inj done
    exact .inl ⟨rfl, rfl⟩
  | cons part rest ih =>
    rw [lastTag] at done
    split at done
    next own found =>
      rcases ih done with ⟨rfl, -⟩ | ⟨other, member, found⟩
      · exact .inr ⟨part, List.mem_cons_self .., found⟩
      · exact .inr ⟨other, List.mem_cons_of_mem _ member, found⟩
    next => contradiction

/-- The base tag stands literally in one part of the replacement. -/
theorem exists_part_of_base (rule : TagRule) :
    ∃ part ∈ pieces ';' rule.replacement.toList, literalTag? part = some rule.base.toList := by
  have read := rule.base_eq
  cases base : replacementBase rule.replacement.toList with
  | error part => simp [base, Except.map] at read
  | ok tag =>
    rw [base, Except.map, Except.ok.injEq] at read
    rw [← read, String.toList_ofList]
    exact (exists_part_of_lastTag base).resolve_left fun none => pieces_ne_nil ';' _ none.2

theorem base_nonempty (rule : TagRule) : rule.base ≠ "" := by
  obtain ⟨part, -, found⟩ := rule.exists_part_of_base
  simpa using (literalTag?_eq_some found).1

theorem semicolon_not_mem_base (rule : TagRule) : ';' ∉ rule.base.toList := by
  obtain ⟨part, member, found⟩ := rule.exists_part_of_base
  exact fun inside => not_mem_of_mem_pieces member ((literalTag?_eq_some found).2.subset inside)

end TagRule

end Constituency
