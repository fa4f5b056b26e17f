import Constituency.Proofs.Parser.Simulation

/-!
# Tokens that nothing accepts

A parse does not get past a token that no terminal of the grammar accepts. No terminal matches
there, so the cursor, the furthest end and the end of every match that is known stay in front of the
token or at it. What stands behind is never looked at, and another sentence that begins alike, up to
this token, is parsed alike: both parses fail, with the same error.
-/
namespace Constituency

/-- Whether no terminal of a grammar accepts a tag. -/
def Grammar.Refuses (grammar : Grammar) (tag : String) : Prop :=
  ∀ rule ∈ grammar.rules, ∀ pattern ∈ rule.body.terminals, pattern.accepts tag = false

instance (grammar : Grammar) (tag : String) : Decidable (grammar.Refuses tag) :=
  inferInstanceAs (Decidable (∀ rule ∈ grammar.rules, ∀ pattern ∈ rule.body.terminals,
    pattern.accepts tag = false))

variable {grammar : Grammar} {tokens others : List Token} {options : ParseOptions}

/-! ### Up to a position -/

/-- The same parser, seen at positions up to a bound. -/
def upTo (bound : Nat) : Likeness := { within := (· ≤ bound) }

section Barrier

variable {bound : Nat} {token : Token} (there : tokens[bound]? = some token)
  (same : others.take (bound + 1) = tokens.take (bound + 1))

include same in
theorem getElem?_upTo {position : Nat} (within : position ≤ bound) :
    others[position]? = tokens[position]? := by
  have taken := congrArg (·[position]?) same
  simpa [List.getElem?_take, Nat.lt_succ_of_le within] using taken

include there in
/-- A terminal that matches in front of the token or at it matches in front of it. -/
theorem lt_of_match {pattern : Pattern} (refused : pattern.accepts token.tag = false)
    {position : Nat} (within : position ≤ bound)
    (found : (tokenMatching tokens position (some pattern)).isSome = true) :
    position < bound := by
  apply Nat.lt_of_le_of_ne within
  rintro rfl
  simp [tokenMatching, there, refused] at found

include there same in
theorem upTo_holds (refused : grammar.Refuses token.tag) :
    (upTo bound).Holds tokens others grammar grammar := by
  refine Likeness.holds_self rfl fun id rule _ production => ?_
  have refuses := refused rule (List.mem_of_getElem? production)
  constructor
  · exact fun _ _ => trivial
  · intro pattern stands position within
    rw [tokenMatching, getElem?_upTo same within]
    simp [upTo, tokenMatching]
  · intro pattern stands position within found
    exact lt_of_match there (refuses pattern stands) within found

end Barrier

/-! ### The error -/

theorem Grammar.parse_eq_error_of_lt {answer : Option Tree} {after : Run}
    (called : Parser.callStart ⟨grammar, tokens, options, {}⟩ =
      (answer, ⟨grammar, tokens, options, after⟩)) (short : after.position < tokens.length) :
    grammar.parse tokens options = .error (after.error tokens) := by
  cases answer with
  | none => simp [parse, called, Parser.error]
  | some tree => simp [parse, called, Parser.error, Parser.isExhausted, short]

/--
Nothing behind a token that no terminal accepts is ever looked at. Whatever the options are, two
sentences that are the same up to such a token, this one included, both fail to parse, and with the
same error: the step limit, or a token at the position of this one or in front of it.
-/
theorem Grammar.parse_of_refused (grammar : Grammar) (options : ParseOptions)
    {tokens others : List Token} {bound : Nat} {token : Token}
    (there : tokens[bound]? = some token)
    (same : others.take (bound + 1) = tokens.take (bound + 1))
    (refused : grammar.Refuses token.tag) :
    ∃ error, grammar.parse tokens options = .error error ∧
      grammar.parse others options = .error error ∧
      ((∃ steps, error = .stepLimit steps) ∨
        ∃ position found, position ≤ bound ∧ tokens[position]? = some found ∧
          error = .unexpectedToken position found) := by
  have rest : Run.AtRest grammar tokens {} := Run.atRest_fresh
  have otherRest : Run.AtRest grammar others {} := Run.atRest_fresh
  obtain ⟨answer, after, events, replies⟩ := Parser.exists_replies options .start rest
  -- The same course is one over the other sentence, and it stays in front of the token.
  obtain ⟨otherAfter, otherEvents, otherReplies, relates⟩ :=
    replies.likened (upTo_holds there same refused) (.fresh (Nat.zero_le bound)) rfl
      fun _ _ => trivial
  have inside : bound < tokens.length := (List.getElem?_eq_some_iff.mp there).1
  have otherInside : bound < others.length := by
    have otherThere := (getElem?_upTo same (Nat.le_refl bound)).trans there
    exact (List.getElem?_eq_some_iff.mp otherThere).1
  have within : after.position ≤ bound := relates.position_within
  have failed := parse_eq_error_of_lt (replies.call_eq rest) (Nat.lt_of_le_of_lt within inside)
  have otherFailed := parse_eq_error_of_lt (otherReplies.call_eq otherRest)
    (relates.position ▸ Nat.lt_of_le_of_lt within otherInside)
  have error : otherAfter.error others = after.error tokens := by
    have reworded : otherAfter.error others = (after.error tokens).reword (upTo bound).change := by
      apply relates.error
      intro position within
      rw [getElem?_upTo same within]
      simp [upTo]
    exact reworded.trans (congrFun ParseError.reword_self _)
  refine ⟨after.error tokens, failed, otherFailed.trans (congrArg Except.error error), ?_⟩
  -- The furthest end is not behind the token either, so a token stands there.
  have reached : after.furthest ≤ bound := relates.furthest_within
  rw [Run.error]
  split
  · exact .inl ⟨after.steps, rfl⟩
  · have stands := List.getElem?_eq_getElem (Nat.lt_of_le_of_lt reached inside)
    rw [stands]
    exact .inr ⟨after.furthest, _, reached, stands, rfl⟩

/-- A sum with an unknown word in it, and what may follow the word. -/
theorem Grammar.parse_of_refused_sum :
    let sum : List Token := [⟨"1", "NUM"⟩, ⟨"+", "PLUS"⟩, ⟨"x", "SL"⟩, ⟨"+", "PLUS"⟩, ⟨"2", "NUM"⟩]
    let part : List Token := sum.take 3
    sum[2]? = some ⟨"x", "SL"⟩ ∧ part.take 3 = sum.take 3 ∧ sums.Refuses "SL" ∧
      ∃ error, sums.parse sum {} = .error error ∧ sums.parse part {} = .error error ∧
        ((∃ steps, error = .stepLimit steps) ∨
          ∃ position found, position ≤ 2 ∧ sum[position]? = some found ∧
            error = .unexpectedToken position found) := by
  have refused : sums.Refuses "SL" := by decide +kernel
  exact ⟨rfl, rfl, refused, parse_of_refused sums {} rfl rfl refused⟩

end Constituency
