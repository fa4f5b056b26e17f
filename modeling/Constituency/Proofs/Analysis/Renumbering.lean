import Constituency.Proofs.Analysis.Citations
import Constituency.Proofs.Parser.Alike
import Constituency.Proofs.Regex.Absorption
import Constituency.Proofs.Regex.Prefix
import Constituency.Proofs.TagTable.Glossary
import Mathlib.Tactic.IntervalCases

/-!
# Analyses with other numbers

The numbers of a tag table are seen in synthetic tags only. So where no pattern of the grammar looks
at the number in such a tag, two tables that differ in their numbers lead to the same analysis, up
to the numbers: the retagged tokens are the same, the parser takes the same steps, nodes get the
same names, and the same is cited and explained.
-/
namespace Constituency

open Constituency.Text

variable {shift : Nat → Nat}

/-! ### Patterns that do not look at numbers -/

/-- What stands behind the number sign of a tag that is written. -/
def numberCharacters : List Char := "0123456789.".toList

theorem mem_numberCharacters_of_isDigit {c : Char} (digit : isDigit c = true) :
    c ∈ numberCharacters := by
  obtain ⟨low, high⟩ := Bool.and_eq_true_iff.mp digit
  have low : 48 ≤ c.toNat := of_decide_eq_true low
  have high : c.toNat ≤ 57 := of_decide_eq_true high
  have same := Char.ofNat_toNat c
  interval_cases code : c.toNat <;> subst same <;> decide

theorem SyntheticTag.mem_numberCharacters (tag : SyntheticTag) :
    ∀ c ∈ tag.suffix, c ∈ numberCharacters := by
  intro c member
  rcases List.mem_append.mp member with digit | behind
  · exact mem_numberCharacters_of_isDigit (isDigit_of_mem_toDigits digit)
  · rcases List.mem_cons.mp behind with rfl | digit
    · decide
    · exact mem_numberCharacters_of_isDigit (isDigit_of_mem_toDigits digit)

/-- Whether a pattern refuses all synthetic tags with a base or accepts them all. -/
def Pattern.ignoresNumbers (pattern : Pattern) (base : String) : Bool :=
  pattern.excludes (base.toList ++ ['#']) || pattern.absorbs (base.toList ++ ['#']) numberCharacters

namespace Pattern

variable {pattern : Pattern} {base : String}

theorem accepts_display_congr (ignores : pattern.ignoresNumbers base = true)
    (ordinal other occurrence : Nat) :
    pattern.accepts (SyntheticTag.display ⟨base, ordinal, occurrence⟩) =
      pattern.accepts (SyntheticTag.display ⟨base, other, occurrence⟩) := by
  have whole (tag : SyntheticTag) :
      tag.display.toList = (tag.base.toList ++ ['#']) ++ tag.suffix := by
    rw [SyntheticTag.toList_display, List.append_assoc]
    rfl
  rcases Bool.or_eq_true_iff.mp ignores with excluded | absorbed
  · -- Both tags begin with the base and the sign.
    have refused (tag : SyntheticTag) (based : tag.base = base) :
        pattern.accepts tag.display = false := by
      apply Bool.eq_false_of_not_eq_true
      intro accepted
      apply not_prefix_of_accepts excluded accepted
      exact ⟨tag.suffix, based ▸ (whole tag).symm⟩
    rw [refused _ rfl, refused _ rfl]
  · have accepted (tag : SyntheticTag) (based : tag.base = base) :
        pattern.accepts tag.display = true :=
      accepts_of_absorbs absorbed (based ▸ whole tag) tag.mem_numberCharacters
    rw [accepted _ rfl, accepted _ rfl]

/-- A pattern that ignores the numbers of all rules of a table does not see them. -/
theorem accepts_renumber {table other : TagTable}
    (renumbers : TagTable.Renumbers shift table other)
    (ignores : ∀ rule ∈ table.rules, pattern.ignoresNumbers rule.base = true) {tag : String}
    (known : table.Knows tag) :
    pattern.accepts (SyntheticTag.renumber shift tag) = pattern.accepts tag := by
  rcases known with plain | ⟨rule, member, ordinal, occurrence, own, few, rfl⟩
  · rw [SyntheticTag.renumber_of_plain plain]
  · have small := (renumbers.readable rule member ordinal own).1
    rw [SyntheticTag.renumber_display rule.base_nonempty small few]
    exact accepts_display_congr (ignores rule member) ..

end Pattern

/-! ### What an analysis tells, with other numbers -/

/-- A synthetic tag ends no sentence, whatever its number is. -/
theorem Token.isSentenceFinal_renumber (token : Token) :
    (token.renumber shift).isSentenceFinal = token.isSentenceFinal := by
  cases read : SyntheticTag.read token.tag with
  | none => rw [renumber_of_plain read]
  | some synthetic =>
    -- Both tags show a number sign, and the tag of a sentence end does not.
    have sign : '#' ∈ token.tag.toList := by
      by_contra signless
      rw [SyntheticTag.read_of_signless signless] at read
      contradiction
    have otherSign : '#' ∈ (token.renumber shift).tag.toList := by
      simp [renumber, SyntheticTag.renumber, read, SyntheticTag.toList_display]
    have signless : '#' ∉ sentenceFinalTag.toList := by decide
    have different : token.tag ≠ sentenceFinalTag := fun same => signless (same ▸ sign)
    have otherDifferent : (token.renumber shift).tag ≠ sentenceFinalTag :=
      fun same => signless (same ▸ otherSign)
    rw [isSentenceFinal, isSentenceFinal, beq_false_of_ne different,
      beq_false_of_ne otherDifferent]

def TagTable.Reference.renumber (shift : Nat → Nat) (reference : Reference) : Reference :=
  { reference with tag := SyntheticTag.renumber shift reference.tag }

theorem TagTable.Renumbers.referenceOf_renumber {table other : TagTable} {token : Token}
    (renumbers : Renumbers shift table other) (known : table.Knows token.tag) :
    other.referenceOf (token.renumber shift) =
      (table.referenceOf token).map (Reference.renumber shift) := by
  have links : other.expandLink = table.expandLink := by
    funext reference
    rw [expandLink, expandLink, renumbers.links]
  rw [referenceOf, referenceOf, Token.renumber, renumbers.ruleFor_renumber known, links]
  cases table.ruleFor token.tag with
  | none => rfl
  | some rule =>
    by_cases silent : rule.refs = [] ∧ rule.notes = none
    · simp [NumberedRule.renumber, silent]
    · simp [NumberedRule.renumber, silent, Reference.renumber]

/-- An analysis with other numbers in its synthetic tags. -/
def Analysis.renumber (shift : Nat → Nat) (analysis : Analysis) : Analysis where
  tokens := analysis.tokens.map (Token.renumber shift)
  mapped := analysis.mapped.map (Token.renumber shift)
  tree := analysis.tree.mapTokens (Token.renumber shift)
  references := analysis.references.map (TagTable.Reference.renumber shift)
  glossary := TagTable.renumberGlossary shift analysis.glossary
  phrases := analysis.phrases.map (List.map (PhraseEntry.mapTokens (Token.renumber shift)))

namespace Analyzer

variable {grammar : Grammar} {table other : TagTable} {names : List (List Char)}
  {tokens : List Token} {options : AnalyzeOptions}

section Parsed

variable {parsed : Tree} (renumbers : TagTable.Renumbers shift table other)
  (known : ∀ token ∈ table.retag tokens, table.Knows token.tag)
  (parse : grammar.parse (table.retag tokens) options.parse = .ok parsed)
include renumbers known parse

/-- The leaves are the retagged tokens, so the same renames are asked for. -/
theorem normalize_renumber :
    (parsed.mapTokens (Token.renumber shift)).normalize grammar.flatten other options.fullDetail =
      (parsed.normalize grammar.flatten table options.fullDetail).mapTokens
        (Token.renumber shift) := by
  apply Tree.normalize_mapTokens options.fullDetail Token.isSentenceFinal_renumber
  intro leaf member
  -- Steps in front of the renames only take leaves away, and each leaf holds a retagged token.
  have covers := Grammar.covers_of_parse parse
  have leaves := covers.map_fst_leaves
  have filled := covers.filled.below
  obtain ⟨span, children, rfl⟩ := Grammar.exists_branch_of_parse parse
  rw [Tree.leaves_flattenLabels, Tree.leaves_dropSentenceEnd filled] at member
  apply renumbers.renameFor_renumber
  apply known
  rw [← leaves]
  exact List.mem_map_of_mem ((dropFinal_sublist ..).subset member)

variable (same : other.retag tokens = (table.retag tokens).map (Token.renumber shift))
  (otherParse : grammar.parse (other.retag tokens) options.parse =
    .ok (parsed.mapTokens (Token.renumber shift)))
include same otherParse

/-- The citations are those of the retagged tokens, with both tables. -/
theorem references_renumber :
    ((Analyzer.mk grammar other).analysisOf tokens options.fullDetail
      (parsed.mapTokens (Token.renumber shift))).references =
      ((Analyzer.mk grammar table).analysisOf tokens options.fullDetail
        parsed).references.map (TagTable.Reference.renumber shift) := by
  have done : (Analyzer.mk grammar table).analyze tokens options = .ok _ :=
    analyze_eq_ok_iff.mpr ⟨parsed, parse, rfl⟩
  have otherDone : (Analyzer.mk grammar other).analyze tokens options = .ok _ :=
    analyze_eq_ok_iff.mpr ⟨_, otherParse, rfl⟩
  rw [references_eq_filterMap done, references_eq_filterMap otherDone, mapped_eq_retag done,
    mapped_eq_retag otherDone, same, List.filterMap_map, List.map_filterMap]
  apply List.filterMap_congr
  intro token member
  exact renumbers.referenceOf_renumber (known token member)

/-- What the second table makes of a parse tree is what the first one does, up to the numbers. -/
theorem analysisOf_renumber (plain : ∀ token ∈ tokens, SyntheticTag.read token.tag = none) :
    (Analyzer.mk grammar other).analysisOf tokens options.fullDetail
      (parsed.mapTokens (Token.renumber shift)) =
      ((Analyzer.mk grammar table).analysisOf tokens options.fullDetail parsed).renumber
        shift := by
  have tree := normalize_renumber renumbers known parse
  have glossary := renumbers.glossaryFor_map known
  rw [← same] at glossary
  have references := references_renumber renumbers known parse same otherParse
  have phrases : ((parsed.mapTokens (Token.renumber shift)).normalize grammar.flatten other
      options.fullDetail).phrases grammar.hidden = _ :=
    tree ▸ Tree.phrases_mapTokens grammar.hidden _
  simp only [analysisOf, Analysis.renumber, Analysis.mk.injEq]
  exact ⟨(Token.map_renumber_of_plain plain).symm, same, tree, references, glossary, phrases⟩

end Parsed

/--
Two tables that differ in their numbers lead to the same analysis of a sentence without synthetic
tags, or to the same error, up to the numbers: where the rules work alike whatever the numbers are,
and the patterns of the grammar do not look at them.
-/
theorem analyze_renumber (renumbers : TagTable.Renumbers shift table other)
    (signless : ∀ name ∈ names, '#' ∉ name)
    (blind : ∀ rule ∈ table.rules, rule.IsBlindIn names table)
    (ignores : ∀ rule ∈ grammar.rules, ∀ pattern ∈ rule.body.terminals,
      ∀ own ∈ table.rules, pattern.ignoresNumbers own.base = true)
    (few : tokens.length ≤ maxWord)
    (plain : ∀ token ∈ tokens, SyntheticTag.read token.tag = none) :
    (Analyzer.mk grammar other).analyze tokens options =
      (((Analyzer.mk grammar table).analyze tokens options).map
        (Analysis.renumber shift)).mapError (ParseError.mapTokens (Token.renumber shift)) := by
  obtain ⟨same, known⟩ := renumbers.retag_eq_map signless blind few plain
  have seen : ∀ rule ∈ grammar.rules, ∀ pattern ∈ rule.body.terminals,
      ∀ token ∈ table.retag tokens,
        pattern.accepts (token.renumber shift).tag = pattern.accepts token.tag :=
    fun rule member pattern stands token inside =>
      Pattern.accepts_renumber renumbers (ignores rule member pattern stands) (known token inside)
  have parses := Grammar.parse_map seen options.parse
  rw [← same] at parses
  cases parse : grammar.parse (table.retag tokens) options.parse with
  | error error =>
    rw [parse] at parses
    rw [analyze_eq_map, analyze_eq_map]
    dsimp only
    rw [parse, parses]
    rfl
  | ok parsed =>
    rw [parse] at parses
    have done : (Analyzer.mk grammar table).analyze tokens options = .ok _ :=
      analyze_eq_ok_iff.mpr ⟨parsed, parse, rfl⟩
    have otherDone : (Analyzer.mk grammar other).analyze tokens options = .ok _ :=
      analyze_eq_ok_iff.mpr ⟨_, parses, rfl⟩
    rw [done, otherDone]
    exact congrArg Except.ok (analysisOf_renumber renumbers known parse same parses plain)

end Analyzer

end Constituency
