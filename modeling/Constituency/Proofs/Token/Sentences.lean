import Constituency.Token

/-!
# Sentences

A text is cut behind every sentence-final token. Its sentences are pinned down by what they are: one
behind the other they give the text back, none is empty, none goes on behind a sentence-final token,
and each but the last one ends with such a token. No other list of sentences has all of that. So a
text that is put together from two, the first of which leaves no sentence open, has the sentences of
the one and then those of the other.
-/
namespace Constituency

/-- Whether some tokens end with a sentence-final one. -/
def EndsSentence (tokens : List Token) : Prop :=
  ∃ last, tokens.getLast? = some last ∧ last.isSentenceFinal = true

/-- Whether some sentences are what a text falls into. -/
structure IsCutInto (tokens : List Token) (sentences : List (List Token)) : Prop where
  flatten_eq : sentences.flatten = tokens
  ne_nil : ∀ sentence ∈ sentences, sentence ≠ []
  inner : ∀ sentence ∈ sentences, ∀ token ∈ sentence.dropLast, token.isSentenceFinal = false
  ended : ∀ sentence ∈ sentences.dropLast, EndsSentence sentence

variable {token : Token} {tokens front rest sentence : List Token}
  {sentences others : List (List Token)}

theorem EndsSentence.cons (ended : EndsSentence tokens) (token : Token) :
    EndsSentence (token :: tokens) := by
  obtain ⟨last, atEnd, final⟩ := ended
  refine ⟨last, ?_, final⟩
  rw [List.getLast?_cons, atEnd]
  rfl

/-- Without its first token, what ends with a sentence-final one still does, if anything is left. -/
theorem EndsSentence.tail (ended : EndsSentence (token :: rest)) (some : rest ≠ []) :
    EndsSentence rest := by
  obtain ⟨last, atEnd, final⟩ := ended
  obtain ⟨next, behind, rfl⟩ := List.exists_cons_of_ne_nil some
  exact ⟨last, by rwa [List.getLast?_cons_cons] at atEnd, final⟩

/-! ### How a text is cut -/

theorem splitSentences_of_final (final : token.isSentenceFinal = true) :
    splitSentences (token :: rest) = [token] :: splitSentences rest := by
  rw [splitSentences, if_pos final]

theorem splitSentences_of_inner (inner : token.isSentenceFinal = false)
    (cut : splitSentences rest = sentence :: others) :
    splitSentences (token :: rest) = (token :: sentence) :: others := by
  simp only [splitSentences, inner, cut, Bool.false_eq_true, if_false]

theorem splitSentences_singleton (token : Token) : splitSentences [token] = [[token]] := by
  cases final : token.isSentenceFinal <;> simp [splitSentences, final]

theorem exists_splitSentences_eq_cons (some : tokens ≠ []) :
    ∃ sentence others, splitSentences tokens = sentence :: others := by
  apply List.exists_cons_of_ne_nil
  intro none
  have whole := flatten_splitSentences tokens
  rw [none] at whole
  exact some whole.symm

/-- Nothing is cut in front of the first sentence-final token. -/
theorem splitSentences_eq_singleton (some : tokens ≠ [])
    (inner : ∀ token ∈ tokens.dropLast, token.isSentenceFinal = false) :
    splitSentences tokens = [tokens] := by
  induction tokens with
  | nil => contradiction
  | cons token rest ih =>
    by_cases last : rest = []
    · rw [last]
      exact splitSentences_singleton token
    · -- A token with others behind it is none of the last ones, so it ends nothing.
      rw [List.dropLast_cons_of_ne_nil last] at inner
      obtain ⟨open', later⟩ := List.forall_mem_cons.mp inner
      exact splitSentences_of_inner open' (ih last later)

/-- Where a text leaves no sentence open, what follows is cut on its own. -/
theorem splitSentences_append (closed : front = [] ∨ EndsSentence front) (back : List Token) :
    splitSentences (front ++ back) = splitSentences front ++ splitSentences back := by
  induction front with
  | nil => rfl
  | cons token rest ih =>
    have ended : EndsSentence (token :: rest) := closed.resolve_left (List.cons_ne_nil _ _)
    have later : rest = [] ∨ EndsSentence rest :=
      Decidable.or_iff_not_imp_left.mpr ended.tail
    rw [List.cons_append]
    cases final : token.isSentenceFinal with
    | true => rw [splitSentences_of_final final, splitSentences_of_final final, ih later,
        List.cons_append]
    | false =>
      -- The token does not end the text, so there is a sentence behind that it begins.
      have some : rest ≠ [] := by
        rintro rfl
        obtain ⟨last, atEnd, isFinal⟩ := ended
        obtain rfl : token = last := Option.some.inj atEnd
        exact Bool.false_ne_true (final.symm.trans isFinal)
      obtain ⟨sentence, others, cut⟩ := exists_splitSentences_eq_cons some
      have whole : splitSentences (rest ++ back) = sentence :: (others ++ splitSentences back) := by
        rw [ih later, cut, List.cons_append]
      rw [splitSentences_of_inner final cut, splitSentences_of_inner final whole, List.cons_append]

/-! ### What the sentences are -/

/-- The sentences but the last one, by the first sentence. -/
theorem mem_dropLast_cons_iff {first : List Token} : sentence ∈ (first :: others).dropLast ↔
    sentence = first ∧ others ≠ [] ∨ sentence ∈ others.dropLast := by
  cases others with
  | nil => simp
  | cons next behind => simp [List.dropLast_cons_cons]

namespace IsCutInto

theorem nil : IsCutInto [] [] := ⟨rfl, by simp, by simp, by simp⟩

/-- A sentence-final token in front is a sentence of its own. -/
theorem consFinal (cut : IsCutInto tokens sentences) (final : token.isSentenceFinal = true) :
    IsCutInto (token :: tokens) ([token] :: sentences) where
  flatten_eq := by rw [List.flatten_cons, cut.flatten_eq, List.singleton_append]
  ne_nil := List.forall_mem_cons.mpr ⟨List.cons_ne_nil _ _, cut.ne_nil⟩
  inner := List.forall_mem_cons.mpr ⟨by simp, cut.inner⟩
  ended := by
    intro sentence member
    rcases mem_dropLast_cons_iff.mp member with ⟨rfl, -⟩ | later
    · exact ⟨token, rfl, final⟩
    · exact cut.ended sentence later

/-- Any other token in front begins the first sentence. -/
theorem consInner (cut : IsCutInto tokens (sentence :: others))
    (inner : token.isSentenceFinal = false) :
    IsCutInto (token :: tokens) ((token :: sentence) :: others) where
  flatten_eq := by rw [← cut.flatten_eq, List.flatten_cons, List.flatten_cons, List.cons_append]
  ne_nil := List.forall_mem_cons.mpr
    ⟨List.cons_ne_nil _ _, (List.forall_mem_cons.mp cut.ne_nil).2⟩
  inner := by
    obtain ⟨some, -⟩ := List.forall_mem_cons.mp cut.ne_nil
    obtain ⟨first, later⟩ := List.forall_mem_cons.mp cut.inner
    refine List.forall_mem_cons.mpr ⟨?_, later⟩
    rw [List.dropLast_cons_of_ne_nil some]
    exact List.forall_mem_cons.mpr ⟨inner, first⟩
  ended := by
    intro other member
    rcases mem_dropLast_cons_iff.mp member with ⟨rfl, more⟩ | later
    · -- The first sentence had others behind it before, too.
      exact (cut.ended sentence (mem_dropLast_cons_iff.mpr (.inl ⟨rfl, more⟩))).cons token
    · exact cut.ended other (mem_dropLast_cons_iff.mpr (.inr later))

theorem tail (cut : IsCutInto tokens (sentence :: others)) : IsCutInto others.flatten others where
  flatten_eq := rfl
  ne_nil := (List.forall_mem_cons.mp cut.ne_nil).2
  inner := (List.forall_mem_cons.mp cut.inner).2
  ended := fun other member => cut.ended other (mem_dropLast_cons_iff.mpr (.inr member))

end IsCutInto

theorem isCutInto_splitSentences (tokens : List Token) :
    IsCutInto tokens (splitSentences tokens) := by
  induction tokens with
  | nil => exact .nil
  | cons token rest ih =>
    cases final : token.isSentenceFinal with
    | true => exact splitSentences_of_final final ▸ ih.consFinal final
    | false =>
      by_cases last : rest = []
      · rw [last, splitSentences_singleton]
        exact ⟨rfl, by simp, by simp, by simp⟩
      · obtain ⟨sentence, others, cut⟩ := exists_splitSentences_eq_cons last
        rw [splitSentences_of_inner final cut]
        exact (cut ▸ ih).consInner final

/-- The sentences of a text are the only ones that it falls into. -/
theorem isCutInto_iff : IsCutInto tokens sentences ↔ sentences = splitSentences tokens := by
  constructor
  · intro cut
    induction sentences generalizing tokens with
    | nil =>
      obtain rfl : [] = tokens := cut.flatten_eq
      rfl
    | cons sentence others ih =>
      obtain ⟨some, -⟩ := List.forall_mem_cons.mp cut.ne_nil
      obtain ⟨inner, -⟩ := List.forall_mem_cons.mp cut.inner
      have alone := splitSentences_eq_singleton some inner
      rw [← cut.flatten_eq, List.flatten_cons]
      by_cases last : others = []
      · rw [last, List.flatten_nil, List.append_nil, alone]
      · -- The first of several sentences is ended, so the rest of the text is cut on its own.
        have ended : EndsSentence sentence :=
          cut.ended sentence (mem_dropLast_cons_iff.mpr (.inl ⟨rfl, last⟩))
        rw [splitSentences_append (.inr ended), alone, ← ih cut.tail, List.singleton_append]
  · rintro rfl
    exact isCutInto_splitSentences tokens

end Constituency
