import Constituency.Proofs.Analysis.Conservation
import Constituency.Proofs.TagTable.Minted

/-!
# Citations of an analysis

Which citations belong to a sentence is told by its retagged tokens alone: one for each token whose
tag leads to a rule with references or notes. The parser and the normal form keep all tokens in
order but for a mark at the end of the sentence, and its tag leads to no rule, so the citations that
are collected from the tree are the ones of the sentence.
-/
namespace Constituency

open Constituency.Text

namespace TagTable

/-! ### What a sentence cites -/

/-- Whether a tag is a synthetic one with the number of the rule, and no later rule has it too. -/
def Resolves (table : TagTable) (tag : String) (rule : NumberedRule) : Prop :=
  ∃ synthetic, SyntheticTag.read tag = some synthetic ∧
    ∃ front back, table.rules = front ++ rule :: back ∧ rule.ordinal = some synthetic.ordinal ∧
      ∀ other ∈ back, other.ordinal ≠ some synthetic.ordinal

/-- Where a reference leads to: a known name in front of its first colon gives way to the address. -/
inductive LeadsTo (table : TagTable) : String → String → Prop
  | known {name path address : String} (first : ':' ∉ name.toList)
      (linked : table.links.lookup name = some address) :
      LeadsTo table (name ++ ":" ++ path) (address ++ path)
  | verbatim {reference : String}
      (unknown : ∀ name path, ':' ∉ name.toList → reference = name ++ ":" ++ path →
        table.links.lookup name = none) :
      LeadsTo table reference reference

/-- The citations of some tokens, from left to right. -/
inductive Cites (table : TagTable) : List Token → List Reference → Prop
  | nothing : Cites table [] []
  | silent {token : Token} {rest : List Token} {references : List Reference}
      (empty : ∀ rule, table.Resolves token.tag rule → rule.refs = [] ∧ rule.notes = none)
      (others : Cites table rest references) : Cites table (token :: rest) references
  | entry {token : Token} {rule : NumberedRule} {links : List String} {rest : List Token}
      {references : List Reference} (resolved : table.Resolves token.tag rule)
      (some : rule.refs ≠ [] ∨ rule.notes ≠ none)
      (expanded : List.Forall₂ table.LeadsTo rule.refs links)
      (others : Cites table rest references) :
      Cites table (token :: rest)
        (⟨token.word, token.tag, rule.label, links, rule.notes⟩ :: references)

/-! ### What the table finds -/

variable {table : TagTable} {token : Token} {tokens : List Token} {references : List Reference}

theorem resolves_iff {tag : String} {rule : NumberedRule} :
    table.Resolves tag rule ↔ table.ruleFor tag = some rule := by
  simp only [Resolves, ruleFor, bind, Option.bind_eq_some_iff, ruleByOrdinal_eq_some_iff]

theorem expandLink_of_known {name path address : String} (first : ':' ∉ name.toList)
    (linked : table.links.lookup name = some address) :
    table.expandLink (name ++ ":" ++ path) = address ++ path := by
  have spelled : (name ++ ":" ++ path).toList = name.toList ++ ':' :: path.toList := by simp
  simp [expandLink, spelled, splitFirst_append first, linked]

theorem expandLink_of_unknown {reference : String}
    (unknown : ∀ name path, ':' ∉ name.toList → reference = name ++ ":" ++ path →
      table.links.lookup name = none) : table.expandLink reference = reference := by
  rw [expandLink]
  split
  next name path cut =>
    obtain ⟨shape, first⟩ := splitFirst_eq cut
    have spelled : reference = String.ofList name ++ ":" ++ String.ofList path := by
      apply String.toList_inj.mp
      simpa using shape
    rw [unknown _ _ (by simpa using first) spelled]
  next => rfl

theorem leadsTo_iff {reference link : String} :
    table.LeadsTo reference link ↔ table.expandLink reference = link := by
  constructor
  · intro leads
    cases leads with
    | known first linked => exact expandLink_of_known first linked
    | verbatim unknown => exact expandLink_of_unknown unknown
  · rintro rfl
    by_cases known : ∃ name path address, ':' ∉ name.toList ∧ reference = name ++ ":" ++ path ∧
        table.links.lookup name = some address
    · obtain ⟨name, path, address, first, rfl, linked⟩ := known
      rw [expandLink_of_known first linked]
      exact .known first linked
    · have unknown : ∀ name path, ':' ∉ name.toList → reference = name ++ ":" ++ path →
          table.links.lookup name = none := by
        intro name path first spelled
        apply Option.eq_none_iff_forall_ne_some.mpr
        exact fun address linked => known ⟨name, path, address, first, spelled, linked⟩
      rw [expandLink_of_unknown unknown]
      exact .verbatim unknown

theorem expanded_iff {refs links : List String} :
    List.Forall₂ table.LeadsTo refs links ↔ refs.map table.expandLink = links := by
  have same : table.LeadsTo = fun reference link => table.expandLink reference = link := by
    funext reference link
    exact propext leadsTo_iff
  rw [same, ← List.forall₂_eq_eq_eq, List.forall₂_map_left_iff]

/-- A token without a citation has no rule that says where to read on. -/
theorem referenceOf_eq_none_iff : table.referenceOf token = none ↔
    ∀ rule, table.Resolves token.tag rule → rule.refs = [] ∧ rule.notes = none := by
  simp only [resolves_iff, referenceOf, bind, Option.bind_eq_none_iff]
  refine forall₂_congr fun rule found => ?_
  simp [pure]

theorem referenceOf_eq_some_iff {reference : Reference} :
    table.referenceOf token = some reference ↔ ∃ rule links, table.Resolves token.tag rule ∧
      (rule.refs ≠ [] ∨ rule.notes ≠ none) ∧ List.Forall₂ table.LeadsTo rule.refs links ∧
      ⟨token.word, token.tag, rule.label, links, rule.notes⟩ = reference := by
  simp only [resolves_iff, expanded_iff, referenceOf, bind, Option.bind_eq_some_iff]
  refine exists_congr fun rule => ?_
  constructor
  · rintro ⟨found, cited⟩
    split at cited
    next => contradiction
    next some => exact ⟨_, found, by simpa [imp_iff_not_or] using some, rfl, Option.some.inj cited⟩
  · rintro ⟨links, found, some, rfl, rfl⟩
    refine ⟨found, if_neg ?_⟩
    simpa [imp_iff_not_or] using some

/-- The citations are the ones the table finds token by token, and no others. -/
theorem cites_iff : table.Cites tokens references ↔
    tokens.filterMap table.referenceOf = references := by
  constructor
  · intro cites
    induction cites with
    | nothing => rfl
    | silent empty _ ih =>
      rw [List.filterMap_cons_none (referenceOf_eq_none_iff.mpr empty), ih]
    | entry resolved some expanded _ ih =>
      have found := referenceOf_eq_some_iff.mpr ⟨_, _, resolved, some, expanded, rfl⟩
      rw [List.filterMap_cons_some found, ih]
  · rintro rfl
    induction tokens with
    | nil => exact .nothing
    | cons token rest ih =>
      cases found : table.referenceOf token with
      | none =>
        rw [List.filterMap_cons_none found]
        exact .silent (referenceOf_eq_none_iff.mp found) ih
      | some reference =>
        rw [List.filterMap_cons_some found]
        obtain ⟨rule, links, resolved, some, expanded, rfl⟩ := referenceOf_eq_some_iff.mp found
        exact .entry resolved some expanded ih

/-- The mark at the end of a sentence leads to no rule, whatever the table. -/
theorem referenceOf_of_isSentenceFinal (final : token.isSentenceFinal = true) :
    table.referenceOf token = none := by
  have tag : token.tag = sentenceFinalTag := by simpa [Token.isSentenceFinal] using final
  have signless : '#' ∉ sentenceFinalTag.toList := by decide
  rw [referenceOf, ruleFor, tag, SyntheticTag.read_of_signless signless]
  rfl

theorem filterMap_referenceOf_withoutSentenceEnd (tokens : List Token) :
    (withoutSentenceEnd tokens).filterMap table.referenceOf =
      tokens.filterMap table.referenceOf := by
  rcases List.eq_nil_or_concat' tokens with rfl | ⟨front, last, rfl⟩
  · rfl
  · rw [withoutSentenceEnd, dropFinal_concat]
    split
    next final => simp [List.filterMap_append, referenceOf_of_isSentenceFinal final]
    next => rfl

end TagTable

/-! ### What the tree keeps -/

/-- From a place on, the leaves of a sentence are its tokens from there on. -/
theorem map_fst_leavesBetween {tokens : List Token} {start : Nat} (within : start ≤ tokens.length) :
    (leavesBetween tokens start tokens.length).map Prod.fst = tokens.drop start := by
  rcases Nat.lt_or_eq_of_le within with less | rfl
  · rw [← leavesBetween_append (Nat.le_succ start) less,
      leavesBetween_succ (List.getElem?_eq_getElem less), List.map_append,
      map_fst_leavesBetween less, List.drop_eq_getElem_cons less]
    rfl
  · rw [leavesBetween_self, List.drop_length]
    rfl
termination_by tokens.length - start

/-- The leaves of a tree that covers a sentence are its tokens. -/
theorem Tree.Covers.map_fst_leaves {tree : Tree} {tokens : List Token}
    (covers : tree.Covers tokens 0 tokens.length) : tree.leaves.map Prod.fst = tokens := by
  rw [covers.leaves_eq, map_fst_leavesBetween (Nat.zero_le _), List.drop_zero]

namespace Analyzer

variable {analyzer : Analyzer} {tokens : List Token} {options : AnalyzeOptions}
  {analysis : Analysis}

/-- Going through the leaves of the tree is going through the retagged tokens. -/
theorem references_eq_filterMap (done : analyzer.analyze tokens options = .ok analysis) :
    analysis.references = analysis.mapped.filterMap analyzer.table.referenceOf := by
  obtain ⟨parsed, parse, rfl⟩ := analyze_eq_ok_iff.mp done
  calc (analyzer.analysisOf tokens options.fullDetail parsed).references
      = ((analyzer.analysisOf tokens options.fullDetail parsed).tree.leaves.map
          Prod.fst).filterMap analyzer.table.referenceOf := by
        rw [List.filterMap_map]
        rfl
    _ = (withoutSentenceEnd (analyzer.table.retag tokens)).filterMap
          analyzer.table.referenceOf := by
        rw [leaves_tree_of_parse parse, map_fst_leavesBetween (Nat.zero_le _), List.drop_zero]
    _ = _ := TagTable.filterMap_referenceOf_withoutSentenceEnd _

/--
Whenever an analysis succeeds, the retagged tokens cite one list of references, and this is the list
that the analysis shows: nothing of it is lost, repeated or moved in the tree.
-/
theorem references_complete (done : analyzer.analyze tokens options = .ok analysis)
    (references : List TagTable.Reference) :
    analyzer.table.Cites analysis.mapped references ↔ references = analysis.references := by
  rw [TagTable.cites_iff, references_eq_filterMap done, eq_comm]

/-- Lessons: what comes before a verb, with a link, a name that is no link, and a bare name. -/
def lessons : Analyzer where
  grammar := (Grammar.of [
    ⟨"Sentence", .seq [.ref "Time", .ref "Verb", .opt (.ref "End")]⟩,
    ⟨"Time", .seq [.ref "Clause", .terminal (Pattern.of "PRP#.*")]⟩,
    ⟨"Clause", .seq [.ref "Verb", .terminal (Pattern.of "ETN#?")]⟩,
    ⟨"Verb", .terminal (Pattern.of "V[VX]")⟩,
    ⟨"End", .terminal (Pattern.of "S.")⟩]).withFlatten ["Clause"]
  table := (TagTable.build [
    .link "course" "https://www.howtostudykorean.com/",
    .rule (TagRule.of "기:ETN" "기:ETN" |>.withNotes "no label, so it is not numbered"),
    .rule (TagRule.of "전:NN[GB];에:JKB" "전에:PRP" |>.withLabel "before"
      |>.withRename ⟨"Time", "Before"⟩
      |>.withRefs ["course:lessons/level-3-lesson-10", "book:3", "preface"] |>.withNotes "says when"),
    .link "course" "https://talktomeinkorean.com/"] 1).1

def lessonTokens : List Token :=
  [⟨"먹", "VV"⟩, ⟨"기", "ETN"⟩, ⟨"전", "NNG"⟩, ⟨"에", "JKB"⟩, ⟨"씻", "VV"⟩, ⟨".", "SF"⟩]

def lessonReferences : List TagTable.Reference := [{
  word := "전에"
  tag := "PRP#1.1"
  label := some "before"
  links := ["https://talktomeinkorean.com/lessons/level-3-lesson-10", "book:3", "preface"]
  notes := some "says when" }]

def lessonAnalysis : Analysis where
  tokens := lessonTokens
  mapped := [⟨"먹", "VV"⟩, ⟨"기", "ETN"⟩, ⟨"전에", "PRP#1.1"⟩, ⟨"씻", "VV"⟩, ⟨".", "SF"⟩]
  tree := .branch "Sentence" ⟨0, 4⟩
    [.branch "Before" ⟨0, 3⟩ [.leaf ⟨"먹", "VV"⟩ ⟨0, 1⟩, .leaf ⟨"기", "ETN"⟩ ⟨1, 2⟩,
      .leaf ⟨"전에", "PRP#1.1"⟩ ⟨2, 3⟩], .leaf ⟨"씻", "VV"⟩ ⟨3, 4⟩]
  references := lessonReferences
  glossary := [("PRP#1.1", ⟨"before", ""⟩)]
  phrases := [[.word ⟨"먹", "VV"⟩, .word ⟨"기", "ETN"⟩, .word ⟨"전에", "PRP#1.1"⟩, .label "Before"],
    [.word ⟨"씻", "VV"⟩]]

/-- A clause that is spliced out, a renamed phrase and a full stop around one token that cites. -/
theorem references_complete_lesson :
    lessons.analyze lessonTokens {} = .ok lessonAnalysis ∧
    ∀ references, lessons.table.Cites lessonAnalysis.mapped references ↔
      references = lessonReferences := by
  have done : lessons.analyze lessonTokens {} = .ok lessonAnalysis := by decide +kernel
  exact ⟨done, references_complete done⟩

end Analyzer

end Constituency
