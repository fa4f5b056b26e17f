import Constituency.Proofs.Regex.Automaton
import Constituency.Proofs.Regex.Template
import Constituency.Proofs.TagTable.Settled
import Constituency.Proofs.Token.Colons

/-!
# Rules that name their tags

A pattern names the tags of its windows if in every text that it matches a name of a fixed list
stands behind each colon, up to the next semicolon or the end. That says what the tags of a window
begin with even where its words or tags hold colons or semicolons themselves. If the rules of a table
name their tags, and each of them puts tags in their place that begin otherwise, then the table
settles a sentence at once. All of this can be computed from the rules.
-/
namespace Constituency

/-! ### Tags in a text -/

/-- Where a reader of joined tokens is. -/
inductive TagReading where
  | outside
  /-- Behind a colon, with what was read since. -/
  | inside (tag : List Char)
deriving DecidableEq

namespace TagReading

variable {names : List (List Char)}

/-- Reads on; a colon in a tag is refused, and so is a tag that is not a name. -/
def next (names : List (List Char)) : TagReading → Char → Option TagReading
  | .outside, c => some (if c = ':' then .inside [] else .outside)
  | .inside tag, c =>
    if c = ':' then none
    else if c = ';' then if tag ∈ names then some .outside else none
    else some (.inside (tag ++ [c]))

/-- Whether the text may end here. -/
def mayEnd (names : List (List Char)) : TagReading → Bool
  | .outside => true
  | .inside tag => tag ∈ names

/-- A reader that can take a character out of several only where none of them begins a tag. -/
def automaton (names : List (List Char)) : Regex.Automaton TagReading where
  step := next names
  stepAll s reading test :=
    match s.only? with
    | some c => (next names reading c).any test
    | none => reading = .outside && !s.contains ':' && test .outside
  stepAll_sound := by
    intro s reading test c passed member
    split at passed
    next d only =>
      obtain rfl : c = d := by simpa [CharSet.contains_of_only? only] using member
      simpa [Option.any_eq_true] using passed
    next =>
      simp only [Bool.and_eq_true, decide_eq_true_eq, Bool.not_eq_true'] at passed
      obtain ⟨⟨rfl, ordinary⟩, passed⟩ := passed
      have other : c ≠ ':' := by
        rintro rfl
        simp [member] at ordinary
      exact ⟨.outside, by simp [next, other], passed⟩

theorem run_inside {tag text : List Char} {reading : TagReading}
    (read : (automaton names).run (.inside tag) text = some reading)
    (ends : reading.mayEnd names = true) : tag ++ text.takeWhile (· != ';') ∈ names := by
  induction text generalizing tag with
  | nil =>
    obtain rfl := Option.some.inj read
    simpa [mayEnd] using ends
  | cons c text ih =>
    obtain ⟨middle, stepped, later⟩ := Option.bind_eq_some_iff.mp read
    simp only [automaton, next] at stepped
    split at stepped
    next => contradiction
    next =>
      split at stepped
      next semicolon =>
        -- The tag ends here, and it was a name.
        split at stepped
        next member => simpa [semicolon] using member
        next => contradiction
      next ordinary =>
        obtain rfl := Option.some.inj stepped
        have kept : (c != ';') = true := by simpa using ordinary
        simpa [List.takeWhile_cons, kept] using ih later

/-- A name stands behind each colon of a text that is read to its end. -/
theorem mem_names_of_run {before after : List Char} {reading : TagReading}
    (read : (automaton names).run .outside (before ++ ':' :: after) = some reading)
    (ends : reading.mayEnd names = true) : after.takeWhile (· != ';') ∈ names := by
  rw [Regex.Automaton.run_append] at read
  obtain ⟨middle, -, read⟩ := Option.bind_eq_some_iff.mp read
  obtain ⟨behind, stepped, later⟩ := Option.bind_eq_some_iff.mp read
  cases middle with
  | outside =>
    obtain rfl : TagReading.inside [] = behind := by simpa [automaton, next] using stepped
    simpa using run_inside later ends
  | inside tag => simp [automaton, next] at stepped

end TagReading

/-! ### What a rule sees -/

namespace TagRule

/-- Whether each tag of a window that the pattern matches begins with one of the names. -/
def namesTags (rule : TagRule) (names : List (List Char)) : Bool :=
  let node := rule.pattern.regex.node
  node.beginsText && node.endsText &&
    (TagReading.automaton names).ensures node .outside (TagReading.mayEnd names)

variable {rule : TagRule} {names : List (List Char)}

theorem mem_names_of_replace? {window replacement : List Token}
    (named : rule.namesTags names = true)
    (found : rule.replace? (joinTokens window) = some replacement) :
    ∀ token ∈ window, token.leadingTag ∈ names := by
  intro token member
  simp only [namesTags, Bool.and_eq_true] at named
  obtain ⟨⟨begins, ends⟩, ensured⟩ := named
  obtain ⟨captures, matched, -⟩ := replace?_eq_some_iff.mp found
  obtain ⟨reading, read, final⟩ :=
    Regex.Automaton.exists_run_of_captures matched begins ends ensured
  obtain ⟨before, after, shape, tag⟩ := exists_tag_of_mem member
  rw [shape] at read
  exact tag ▸ TagReading.mem_names_of_run read final

/-! ### What a rule writes -/

/-- Whether the replacement shows one colon, and nothing that is captured can bring another. -/
def writesOneToken (rule : TagRule) : Bool :=
  let pieces := Template.read rule.replacement.toList
  rule.pattern.regex.node.groupsAvoid ':' && !pieces.contains (.numbered 0) &&
    pieces.count (.literal ':') == 1

theorem exists_token_of_replace? {window : String} {replacement : List Token}
    (one : rule.writesOneToken = true) (found : rule.replace? window = some replacement) :
    ∃ token, replacement = [token] := by
  simp only [writesOneToken, Bool.and_eq_true, beq_iff_eq, Bool.not_eq_true'] at one
  obtain ⟨⟨avoided, proper⟩, one⟩ := one
  obtain ⟨captures, matched, read, some⟩ := replace?_eq_some_iff.mp found
  -- There are no more tokens than colons, and the expansion has the one of the template.
  have colons : replacement.length ≤ 1 := by
    have bounded := length_le_count_of_readTokens read
    rwa [String.toList_ofList, Template.count_expand
      (fun index captured => Regex.not_mem_of_group matched avoided) (by simpa using proper), one]
      at bounded
  obtain ⟨token, others, rfl⟩ := List.exists_cons_of_ne_nil some
  obtain rfl := List.length_eq_zero_iff.mp (Nat.le_zero.mp (Nat.le_of_succ_le_succ colons))
  exact ⟨token, rfl⟩

/-- Whether no token that the replacement stands for begins with one of the names. -/
def writesOtherTags (rule : TagRule) (names : List (List Char)) : Bool :=
  !rule.replacement.toList.contains '$' &&
    match readTokens rule.replacement with
    | .ok tokens => tokens.all (·.leadingTag ∉ names)
    | .error _ => true

/-- A replacement without references is read as it stands, whatever is captured. -/
theorem readTokens_of_replace? {window : String} {replacement : List Token}
    (plain : '$' ∉ rule.replacement.toList) (found : rule.replace? window = some replacement) :
    readTokens rule.replacement = .ok replacement := by
  obtain ⟨captures, -, read, -⟩ := replace?_eq_some_iff.mp found
  rwa [Template.expand_of_no_reference plain, String.ofList_toList] at read

theorem not_mem_names_of_replace? {window : String} {replacement : List Token}
    (other : rule.writesOtherTags names = true) (found : rule.replace? window = some replacement) :
    ∀ token ∈ replacement, token.leadingTag ∉ names := by
  simp only [writesOtherTags, Bool.and_eq_true, Bool.not_eq_true'] at other
  obtain ⟨plain, other⟩ := other
  rw [readTokens_of_replace? (by simpa using plain) found] at other
  simpa using other

/-! ### Closed tables -/

/--
Whether a rule sees tags with the names only and writes none of them. What a numbered rule writes is
a single token, so that it bears a synthetic tag, whose number sign tells it from all names.
-/
def isClosed (rule : TagRule) (names : List (List Char)) : Bool :=
  rule.namesTags names &&
    if rule.isNumbered then rule.writesOneToken else rule.writesOtherTags names

end TagRule

/-- The base of a rule holds no semicolon, so its synthetic tags show their number signs. -/
theorem hash_mem_leadingTag {token : Token} {rule : TagRule} {ordinal occurrence : Nat}
    (minted : token.tag = SyntheticTag.display ⟨rule.base, ordinal, occurrence⟩) :
    '#' ∈ token.leadingTag := by
  have based : ∀ c ∈ rule.base.toList, (c != ';') = true := by
    intro c member
    rw [bne_iff_ne]
    rintro rfl
    exact rule.semicolon_not_mem_base member
  rw [Token.leadingTag, minted, SyntheticTag.toList_display, List.takeWhile_append_of_pos based]
  simp

/-- Where a numbered rule writes one token, that token bears the tag of the application. -/
theorem NumberedRule.tag_of_mem_mint {rule : NumberedRule} {number occurrence : Nat}
    {window : String} {replacement : List Token} {token : Token}
    (ordinal : rule.ordinal = some number) (one : rule.writesOneToken = true)
    (found : rule.replace? window = some replacement)
    (member : token ∈ rule.mint occurrence replacement) :
    token.tag = SyntheticTag.display ⟨rule.base, number, occurrence⟩ := by
  obtain ⟨only, rfl⟩ := TagRule.exists_token_of_replace? one found
  have minted : rule.mint occurrence ([] ++ [only]) = _ := rule.mint_append occurrence [] only
  rw [ordinal] at minted
  exact List.mem_singleton.mp (minted ▸ member) ▸ rfl

/-- A closed rule settles what it rewrites: tokens whose tags begin with none of the names. -/
theorem NumberedRule.settles_of_isClosed {rule : NumberedRule} {names : List (List Char)}
    (closed : rule.isClosed names = true) (numbered : rule.ordinal.isSome = rule.isNumbered)
    (signless : ∀ name ∈ names, '#' ∉ name) :
    rule.Settles fun token => token.leadingTag ∉ names := by
  obtain ⟨named, writes⟩ := Bool.and_eq_true_iff.mp closed
  constructor
  · intro window replacement found token member
    exact not_not.mpr (TagRule.mem_names_of_replace? named found token member)
  · intro window replacement occurrence found token member
    cases ordinal : rule.ordinal with
    | some number =>
      have counts : rule.isNumbered = true := by simpa [ordinal] using numbered.symm
      rw [if_pos counts] at writes
      have tag := tag_of_mem_mint ordinal writes found member
      exact fun name => signless _ name (hash_mem_leadingTag tag)
    | none =>
      have uncounted : ¬ rule.isNumbered = true := by
        rw [← numbered, ordinal]
        simp
      rw [if_neg uncounted] at writes
      have same : rule.mint occurrence replacement = replacement := by simp [mint, ordinal]
      exact TagRule.not_mem_names_of_replace? writes found token (same ▸ member)

/-- Retagging with a table of closed rules is idempotent. -/
theorem TagTable.retag_retag_of_isClosed {entries : List TagEntry} {names : List (List Char)}
    (fresh : ∀ rule ∈ rulesOf entries, rule.bringsNumber = false)
    (closed : ∀ rule ∈ rulesOf entries, rule.isClosed names = true)
    (signless : ∀ name ∈ names, '#' ∉ name) (next : Nat) (tokens : List Token) :
    (build entries next).1.retag ((build entries next).1.retag tokens) =
      (build entries next).1.retag tokens := by
  have settles : ∀ rule ∈ (build entries next).1.rules,
      rule.Settles fun token => token.leadingTag ∉ names := by
    intro rule member
    have own := forall_mem_rules_build (P := fun rule => rule.isClosed names = true) closed rule
      member
    exact NumberedRule.settles_of_isClosed own (isSome_ordinal_of_mem_build fresh member) signless
  exact retag_retag_of_settles settles tokens

end Constituency
