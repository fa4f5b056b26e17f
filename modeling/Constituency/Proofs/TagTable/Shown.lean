import Constituency.Accepted
import Constituency.Proofs.Regex.Groups
import Constituency.Proofs.Regex.Pieces
import Constituency.Proofs.Token.Colons
import Constituency.Proofs.Token.RoundTrip
import Constituency.TagTable.Retag

/-!
# What replacements show

A replacement shows a word and a tag in each of its parts. The tags are looked at where the parts
are, and the tokens are read from the expansion of the whole. Both readings agree unless a tag
begins with a blank, which is trimmed in the one and not in the other, or a brace that is opened in
a word is closed behind the colon.
-/
namespace Constituency

open Constituency.Text

theorem Text.intercalate_pieces (sep : Char) (text : List Char) :
    [sep].intercalate (pieces sep text) = text := by
  induction text with
  | nil => rfl
  | cons c rest ih =>
    rw [pieces]
    split
    next same =>
      rw [List.intercalate_cons_of_ne_nil (pieces_ne_nil sep rest), ih, same]
      rfl
    next =>
      obtain ⟨first, others, cut⟩ := List.exists_cons_of_ne_nil (pieces_ne_nil sep rest)
      rw [cut] at ih ⊢
      dsimp only
      rw [List.intercalate_cons_cons_left, ih]

namespace TagRule

/-- The words and tags that the parts of the replacement show. -/
def shown (rule : TagRule) : List (List Char × List Char) :=
  (pieces ';' rule.replacement.toList).filterMap (splitLast ':')

/-- Whether a tag can be read: there is one, and neither references nor separators are in it. -/
structure IsLiteral (tag : List Char) : Prop where
  filled : isBlankText tag = false
  noReference : '$' ∉ tag
  noColon : ':' ∉ tag

theorem shown_of_lastTag {parts : List (List Char)} {last tag : List Char}
    (done : lastTag parts last = .ok tag) :
    (parts.filterMap (splitLast ':')).map (fun part => part.1 ++ ':' :: part.2) = parts ∧
      (∀ part ∈ parts.filterMap (splitLast ':'), IsLiteral part.2) ∧
      (((parts.filterMap (splitLast ':')).getLast?.map fun part => trim part.2).getD last) = tag := by
  induction parts generalizing last with
  | nil => exact ⟨rfl, by simp, Except.ok.inj done⟩
  | cons part parts ih =>
    rw [lastTag] at done
    split at done
    next own found =>
      unfold literalTag? at found
      split at found
      next word text cut =>
        split at found
        next => contradiction
        next literal =>
          obtain rfl := Option.some.inj found
          obtain ⟨shape, absent⟩ := splitLast_eq cut
          obtain ⟨joined, literals, final⟩ := ih done
          simp only [Bool.or_eq_true, not_or, Bool.not_eq_true] at literal
          rw [List.filterMap_cons, cut]
          refine ⟨by rw [List.map_cons, joined, shape], ?_, ?_⟩
          · exact List.forall_mem_cons.mpr ⟨⟨literal.1, by simpa using literal.2, absent⟩, literals⟩
          · rw [← final, List.getLast?_cons]
            cases (parts.filterMap (splitLast ':')).getLast? <;> rfl
      next => contradiction
    next => contradiction

/-! ### The parts of a replacement -/

variable (rule : TagRule)

theorem lastTag_replacement : lastTag (pieces ';' rule.replacement.toList) [] =
    .ok rule.base.toList := by
  have read := rule.base_eq
  unfold replacementBase at read
  cases done : lastTag (pieces ';' rule.replacement.toList) [] with
  | error part => simp [done, Except.map] at read
  | ok tag =>
    rw [done, Except.map, Except.ok.injEq] at read
    rw [← read, String.toList_ofList]

theorem map_shown : rule.shown.map (fun part => part.1 ++ ':' :: part.2) =
    pieces ';' rule.replacement.toList :=
  (shown_of_lastTag rule.lastTag_replacement).1

theorem isLiteral_of_mem_shown {part : List Char × List Char} (member : part ∈ rule.shown) :
    IsLiteral part.2 :=
  (shown_of_lastTag rule.lastTag_replacement).2.1 part member

theorem shown_ne_nil : rule.shown ≠ [] := by
  intro none
  have joined := rule.map_shown
  rw [none] at joined
  exact pieces_ne_nil ';' _ joined.symm

/-- The base of a rule is the tag of the last part. -/
theorem getLast?_shown :
    rule.shown.getLast?.map (fun part => trim part.2) = some rule.base.toList := by
  have final := (shown_of_lastTag rule.lastTag_replacement).2.2
  rw [← shown] at final
  obtain ⟨last, found⟩ := Option.isSome_iff_exists.mp (List.getLast?_isSome.mpr rule.shown_ne_nil)
  simp_all

theorem joinParts_shown : Template.joinParts rule.shown = rule.replacement.toList := by
  rw [Template.joinParts, map_shown, intercalate_pieces]

theorem no_semicolon_of_mem_shown {part : List Char × List Char} (member : part ∈ rule.shown) :
    ';' ∉ part.2 := by
  have piece : part.1 ++ ':' :: part.2 ∈ pieces ';' rule.replacement.toList := by
    rw [← map_shown]
    exact List.mem_map_of_mem (f := fun part => part.1 ++ ':' :: part.2) member
  exact fun inside => not_mem_of_mem_pieces piece (by simp [inside])

end TagRule

/-! ### Reading parts -/

/-- A text with one colon in each part is read part by part. -/
theorem readTokens_joinParts {parts : List (List Char × List Char)} (some : parts ≠ [])
    (words : ∀ part ∈ parts, part.1 ≠ [] ∧ ':' ∉ part.1 ∧ ';' ∉ part.1)
    (tags : ∀ part ∈ parts, TagRule.IsLiteral part.2 ∧ ';' ∉ part.2) :
    readTokens (String.ofList (Template.joinParts parts)) = .ok (parts.map fun part =>
      ⟨String.ofList (trimStart part.1), String.ofList (trimEnd part.2)⟩) := by
  have cut : tokenParts (Template.joinParts parts) =
      parts.map fun part => part.1 ++ ':' :: part.2 := by
    refine tokenParts_eq_iff.mpr ⟨by simpa using some, rfl, ?_, ?_⟩
    · refine List.forall_mem_map.mpr fun part member => isTokenPart_iff.mpr ?_
      intro before rest shape
      have inside : ';' ∈ part.1 ++ ':' :: part.2 := by simp [shape]
      simp [(words part member).2.2, (tags part member).2] at inside
    · rw [← List.map_tail]
      refine List.forall_mem_map.mpr fun part member => ?_
      obtain ⟨filled, silent, -⟩ := words part (List.mem_of_mem_tail member)
      obtain ⟨c, word, shape⟩ := List.exists_cons_of_ne_nil filled
      rw [shape, List.mem_cons, not_or] at silent
      simpa [shape] using Ne.symm silent.1
  rw [readTokens_eq_ok_iff, String.toList_ofList, cut, List.filter_eq_self.mpr,
    List.forall₂_map_left_iff, List.forall₂_map_right_iff, List.forall₂_same]
  · intro part member
    obtain ⟨literal, -⟩ := tags part member
    refine Token.read_ok_iff.mpr ⟨?_, ?_, ?_⟩
    · rw [trim_append_cons _ _ (by decide)]
      simp [Token.toList_display]
    · simpa using fun inside => literal.noColon ((trimEnd_sublist _).subset inside)
    · simpa [trimEnd_eq_nil_iff] using literal.filled
  · refine List.forall_mem_map.mpr fun part _ => ?_
    simp [isBlankText, show isBlank ':' = false by decide]

/-! ### Windows -/

/-- A group whose name holds a colon is in no pattern. -/
theorem Pattern.named_of_colon {pattern : Pattern} {window : String} {captures : Regex.Captures}
    (matched : pattern.captures? window = some captures) {label : String}
    (colon : ':' ∈ label.toList) : captures.named label = none := by
  obtain ⟨thread, -, rfl⟩ := Option.map_eq_some_iff.mp matched
  have names := Regex.areGroupNames_of_read pattern.read_source
  have unknown : pattern.regex.names.idxOf? (some label) = none :=
    List.idxOf?_eq_none_iff.mpr fun member => absurd (names label member ':' colon)
      (by decide +kernel)
  rw [Regex.Captures.named, unknown]

namespace TagRule

variable {rule : TagRule} {window : String} {captures : Regex.Captures}

/-- Whether each word expands to a text, and to one without separators. -/
def HasPlainWords (rule : TagRule) (captures : Regex.Captures) : Prop :=
  ∀ part ∈ rule.shown, Template.expand part.1 captures ≠ [] ∧
    ':' ∉ Template.expand part.1 captures ∧ ';' ∉ Template.expand part.1 captures

instance (rule : TagRule) (captures : Regex.Captures) : Decidable (rule.HasPlainWords captures) :=
  inferInstanceAs (Decidable (∀ part ∈ rule.shown, _ ∧ _ ∧ _))

/-- Whether no tag begins with a blank. -/
def isFlush (rule : TagRule) : Bool := rule.shown.all fun part => !part.2.head?.any isBlank

/-- Where no brace is closed across a colon, each part gives a token. -/
theorem replace?_of_isUncrossed (matched : rule.pattern.captures? window = some captures)
    (plain : rule.HasPlainWords captures) (uncrossed : Template.isUncrossed rule.shown = true) :
    rule.replace? window = some (rule.shown.map fun part =>
      ⟨String.ofList (trimStart (Template.expand part.1 captures)),
        String.ofList (trimEnd part.2)⟩) := by
  refine replace?_eq_some_iff.mpr ⟨captures, matched, ?_, by simpa using rule.shown_ne_nil⟩
  rw [← rule.joinParts_shown, Template.expand_joinParts uncrossed fun part member =>
    (rule.isLiteral_of_mem_shown member).noReference, readTokens_joinParts, List.map_map]
  · rfl
  · simpa using rule.shown_ne_nil
  · exact List.forall_mem_map.mpr plain
  · intro part member
    obtain ⟨original, here, rfl⟩ := List.mem_map.mp member
    have literal := rule.isLiteral_of_mem_shown here
    have whole := rule.no_semicolon_of_mem_shown here
    exact ⟨literal, whole⟩

/-- Where one is, there are fewer tokens than parts. -/
theorem length_lt_of_replace? (matched : rule.pattern.captures? window = some captures)
    (plain : rule.HasPlainWords captures) (crossed : Template.isUncrossed rule.shown = false)
    {tokens : List Token} (replaced : rule.replace? window = some tokens) :
    tokens.length < rule.shown.length := by
  obtain ⟨captures', matched', read, -⟩ := replace?_eq_some_iff.mp replaced
  obtain rfl := Option.some.inj (matched'.symm.trans matched)
  have quiet : Template.IsQuiet captures' rule.shown := fun part member =>
    ⟨⟨(rule.isLiteral_of_mem_shown member).noReference,
      (rule.isLiteral_of_mem_shown member).noColon⟩, (plain part member).2.1⟩
  have few := (Template.count_expand_joinParts (fun _ => Pattern.named_of_colon matched) quiet).2
    crossed
  rw [rule.joinParts_shown] at few
  have le := length_le_count_of_readTokens read
  rw [String.toList_ofList] at le
  exact Nat.lt_of_le_of_lt le few

end TagRule

namespace NumberedRule

/-- The tokens that replace a window are those that the replacement shows, one for each part. -/
structure Yields (rule : NumberedRule) (window : String) (tokens : List Token) : Prop where
  replaced : rule.replace? window = some tokens
  tags : tokens.map (fun token => token.tag.toList) = rule.shown.map fun part => trim part.2
  base : rule.ordinal = none → ∀ occurrence,
    (rule.mint occurrence tokens).getLast?.map Token.tag = some rule.base

variable {rule : NumberedRule} {window : String} {tokens : List Token}

/-- With the tags of all parts, the last token bears the base tag of its rule. -/
theorem Yields.of_tags (replaced : rule.replace? window = some tokens)
    (tags : tokens.map (fun token => token.tag.toList) = rule.shown.map fun part => trim part.2) :
    rule.Yields window tokens := by
  refine ⟨replaced, tags, fun unnumbered occurrence => ?_⟩
  have last := rule.getLast?_shown
  rw [← List.getLast?_map, ← tags, List.getLast?_map] at last
  have minted : rule.mint occurrence tokens = tokens := by
    simp [mint, unnumbered]
  obtain ⟨token, found, tag⟩ := Option.map_eq_some_iff.mp last
  rw [minted, found, Option.map_some, String.toList_inj.mp tag]

/--
A replacement yields what it shows exactly if no tag begins with a blank and no brace is closed
across a colon, whatever window it replaces.
-/
theorem exists_yields_iff {captures : Regex.Captures}
    (matched : rule.pattern.captures? window = some captures)
    (plain : rule.HasPlainWords captures) : (∃ tokens, rule.Yields window tokens) ↔
      rule.isFlush = true ∧ Template.isUncrossed rule.shown = true := by
  cases crossed : Template.isUncrossed rule.shown with
  | false =>
    have fewer : ¬ ∃ tokens, rule.Yields window tokens := by
      rintro ⟨tokens, replaced, tags, -⟩
      -- There is not even one token for each part.
      have lt := TagRule.length_lt_of_replace? matched plain crossed replaced
      have same := congrArg List.length tags
      rw [List.length_map, List.length_map] at same
      omega
    simp [fewer]
  | true =>
    have replaced := TagRule.replace?_of_isUncrossed matched plain crossed
    -- The tags that are written are trimmed at their ends only.
    have flush : rule.isFlush = true ↔ ∀ part ∈ rule.shown, trimEnd part.2 = trim part.2 := by
      rw [TagRule.isFlush, List.all_eq_true]
      refine forall₂_congr fun part member => ?_
      rw [trimEnd_eq_trim_iff (rule.isLiteral_of_mem_shown member).filled]
      cases part.2.head? <;> simp
    simp only [flush, and_true]
    constructor
    · rintro ⟨tokens, again, tags, -⟩
      obtain rfl := Option.some.inj (replaced.symm.trans again)
      simpa using tags
    · intro same
      exact ⟨_, .of_tags replaced (by simpa using same)⟩

example : Template.isUncrossed [("$\x7ba".toList, "X\x7d".toList)] = false := by decide +kernel

/-- A rule with references in its words and a blank behind its last tag. -/
def stemRule : NumberedRule where
  toTagRule := .of "(?P<stem>[^:;]+):A" "$stem y:B;$\x7b1\x7d:C "
  ordinal := none

/-- What that rule captures in a window. -/
def stemCaptures : Regex.Captures :=
  (stemRule.pattern.captures? "bo:A").get (by decide +kernel)

theorem exists_yields_stem : stemRule.pattern.captures? "bo:A" = some stemCaptures ∧
    stemRule.HasPlainWords stemCaptures ∧ ∃ tokens, stemRule.Yields "bo:A" tokens := by
  have matched : stemRule.pattern.captures? "bo:A" = some stemCaptures := (Option.some_get _).symm
  have plain : stemRule.HasPlainWords stemCaptures := by decide +kernel
  exact ⟨matched, plain, (exists_yields_iff matched plain).mpr (by decide +kernel)⟩

/-- A rule whose tag begins with a blank. -/
def blankRule : NumberedRule where
  toTagRule := .of "a:A" "b: B"
  ordinal := none

/-- That rule writes the blank, and its base tag is without it. -/
theorem not_yields_blank : blankRule.base = "B" ∧ blankRule.replace? "a:A" = some [⟨"b", " B"⟩] ∧
    ¬ ∃ tokens, blankRule.Yields "a:A" tokens := by
  have replaced : blankRule.replace? "a:A" = some [⟨"b", " B"⟩] := by decide +kernel
  refine ⟨by decide +kernel, replaced, ?_⟩
  rintro ⟨tokens, again, tags, -⟩
  obtain rfl := Option.some.inj (replaced.symm.trans again)
  exact absurd tags (by decide +kernel)

end NumberedRule

end Constituency
