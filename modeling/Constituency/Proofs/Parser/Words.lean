import Constituency.Proofs.Parser.Alternatives
import Constituency.Proofs.Parser.Simulation

/-!
# Words are not read

A terminal looks at the tag of a token only. Over other words with the same tags a parser takes the
same steps, ends at the same positions and fails for the same reason, call after call. The words
come back in the answers only: at the leaves of the trees, those out of the memory included, and in
the token of an error, with the words of its own sentence each time.
-/
namespace Constituency

/-! ### Other words under the same tags -/

/-- The token with the word that stands at its place in another sentence. -/
def wordFrom (others : List Token) (position : Nat) (token : Token) : Token :=
  match others[position]? with
  | some other => { token with word := other.word }
  | none => token

section Words

variable {tokens others : List Token} (tags : others.map Token.tag = tokens.map Token.tag)

include tags in
theorem getElem?_wordFrom (position : Nat) :
    others[position]? = tokens[position]?.map (wordFrom others position) := by
  have tagged : others[position]?.map Token.tag = tokens[position]?.map Token.tag := by
    rw [← List.getElem?_map, tags, List.getElem?_map]
  cases there : tokens[position]? with
  | none =>
    rw [there] at tagged
    exact Option.map_eq_none_iff.mp tagged
  | some token =>
    rw [there] at tagged
    obtain ⟨other, otherThere, tag⟩ := Option.map_eq_some_iff.mp tagged
    -- A token is its word and its tag.
    have same : ({ token with word := other.word } : Token) = other := by
      rw [← tag]
    simp [wordFrom, otherThere, same]

theorem tag_wordFrom (others : List Token) (position : Nat) (token : Token) :
    (wordFrom others position token).tag = token.tag := by
  unfold wordFrom
  split <;> rfl

include tags in
theorem tokenMatching_wordFrom (position : Nat) (pattern : Pattern) :
    tokenMatching others position (some pattern) =
      (tokenMatching tokens position (some pattern)).map (wordFrom others position) := by
  apply tokenMatching_map (getElem?_wordFrom tags position)
  intro token _
  rw [tag_wordFrom]

include tags in
theorem holds_wordFrom (grammar : Grammar) :
    ({ change := wordFrom others } : Likeness).Holds tokens others grammar grammar := by
  apply Likeness.holds_self rfl
  intro id rule _ _
  constructor
  · exact fun _ _ => trivial
  · intro pattern _ position _
    exact tokenMatching_wordFrom tags position pattern
  · exact fun _ _ _ _ _ => trivial

end Words

/-! ### What is told of other words -/

/--
A parser sees tags only. Over two sentences with the same tags it tells alike of any calls: the
trees and errors are the same but for the words in them, which are those that stand at their places,
and the positions, furthest positions, steps and whether the steps ran out are the same. So what a
parser does tells nothing of the words, with a memory or without one and under any budget.
-/
theorem Parser.accounts_words (grammar : Grammar) {tokens others : List Token}
    (tags : others.map Token.tag = tokens.map Token.tag) (options : ParseOptions)
    (calls : List Call) :
    accounts { grammar, tokens := others, options } calls =
      (accounts { grammar, tokens, options } calls).map (Account.reword (wordFrom others)) := by
  apply Likeness.accounts_eq (holds_wordFrom tags grammar)
  · intro call
    exact (congrFun Option.map_id (call.target? grammar)).symm
  · exact fun _ _ _ => trivial
  · trivial
  · exact fun position _ => getElem?_wordFrom tags position

/-- Two objects of a sentence: the noun in each tree comes out of the memory. -/
theorem Parser.accounts_words_objectPhrase :
    let meal : List Token := [⟨"밥", "NNG"⟩, ⟨"을", "JKO"⟩]
    let book : List Token := [⟨"책", "NNG"⟩, ⟨"을", "JKO"⟩]
    let calls : List Call := [.start, .rule "Noun", .rule "Verb"]
    book.map Token.tag = meal.map Token.tag ∧
      (accounts { grammar := objectPhrases, tokens := meal } calls).map
          (fun account => (account.tree.isSome, account.position)) =
        [(true, 2), (false, 2), (false, 2)] ∧
      accounts { grammar := objectPhrases, tokens := book } calls =
        (accounts { grammar := objectPhrases, tokens := meal } calls).map
          (Account.reword (wordFrom book)) :=
  ⟨by decide, by decide +kernel, accounts_words objectPhrases (by decide) _ _⟩

end Constituency
