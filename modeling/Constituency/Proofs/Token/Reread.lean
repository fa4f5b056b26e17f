import Constituency.Proofs.Token.RoundTrip

/-!
# Token lists that are written anew

Tokens that were read are written again with a bare semicolon between them. A token whose word is
empty or begins with a colon then clings to the token in front of it: the semicolon between the two
has a colon behind it, so it separates nothing, and both are read as one token. No more than that is
lost, since what was read is trimmed already and holds no separator. So a text is read back from
what was read of it exactly if no token behind the first one clings.
-/
namespace Constituency

open Constituency.Text

namespace Token

/-! ### What was read can be written -/

theorem isTokenPart_trim {part : List Char} (whole : isTokenPart part = true) :
    isTokenPart (trim part) = true := by
  obtain ⟨front, back, shape, -, blank⟩ := exists_trim part
  rw [isTokenPart_iff] at whole ⊢
  intro before rest cut
  have colon := whole (front ++ before) (rest ++ back) (by rw [shape, cut]; simp)
  cases rest with
  | cons c rest => exact colon
  | nil =>
    -- The colon would stand among the blanks that were trimmed.
    rw [List.nil_append] at colon
    have blank := List.all_eq_true.mp blank ':' (List.mem_of_mem_head? colon)
    exact absurd blank (by decide)

theorem isWritable_of_read {part : List Char} {token : Token} (whole : isTokenPart part = true)
    (done : read part = .ok token) : token.IsWritable := by
  obtain ⟨shape, tagged⟩ := read_ok_iff.mp done
  refine isWritable_iff.mpr ⟨tagged, ?_, ?_⟩
  · rw [← shape]
    exact isTokenPart_trim whole
  · rw [← shape]
    exact trim_trim part

/-! ### Tokens that cling -/

/-- Whether what is written for a token begins with a colon. -/
def clings (token : Token) : Bool := token.display.toList.head? == some ':'

theorem clings_iff {token : Token} :
    token.clings = true ↔ token.word = "" ∨ token.word.toList.head? = some ':' := by
  have begins := not_congr (@head?_display_ne_colon_iff token)
  rw [clings, beq_iff_eq]
  simpa only [ne_eq, not_and_or, not_not] using begins

/-- The token that is read where a token clings to the one in front of it. -/
def glue (front token : Token) : Token := ⟨front.display ++ ";" ++ token.word, token.tag⟩

theorem toList_display_glue (front token : Token) :
    (front.glue token).display.toList = front.display.toList ++ ';' :: token.display.toList := by
  simp [glue, toList_display]

theorem clings_glue {front token : Token} : (front.glue token).clings = front.clings := by
  have nonempty : front.display.toList ≠ [] := by simp [toList_display]
  rw [clings, toList_display_glue, List.head?_append_of_ne_nil _ nonempty, clings]

theorem isTokenPart_append_semicolon {front back : List Char} (first : isTokenPart front = true)
    (last : isTokenPart back = true) (colon : back.head? = some ':') :
    isTokenPart (front ++ ';' :: back) = true := by
  induction front with
  | nil => exact isTokenPart_cons.mpr ⟨fun _ => colon, last⟩
  | cons c front ih =>
    obtain ⟨ordinary, first⟩ := isTokenPart_cons.mp first
    refine isTokenPart_cons.mpr ⟨fun semicolon => ?_, ih first⟩
    change (front ++ ';' :: back).head? = some ':'
    rw [List.head?_append, ordinary semicolon]
    rfl

theorem IsWritable.glue {front token : Token} (first : front.IsWritable) (last : token.IsWritable)
    (clings : token.clings = true) : (front.glue token).IsWritable := by
  obtain ⟨-, firstPart, firstTrimmed⟩ := isWritable_iff.mp first
  obtain ⟨tagged, lastPart, lastTrimmed⟩ := isWritable_iff.mp last
  refine isWritable_iff.mpr ⟨tagged, ?_, ?_⟩
  · rw [toList_display_glue]
    exact isTokenPart_append_semicolon firstPart lastPart (by simpa [Token.clings] using clings)
  · -- The text begins as the first token and ends as the last one.
    have nonempty (token : Token) : token.display.toList ≠ [] := by simp [toList_display]
    have begins : (front.display.toList ++ ';' :: token.display.toList).head? =
        front.display.toList.head? := List.head?_append_of_ne_nil _ (nonempty front)
    have ends : (front.display.toList ++ ';' :: token.display.toList).getLast? =
        token.display.toList.getLast? := by
      rw [List.getLast?_append_cons, List.getLast?_cons,
        List.getLast?_eq_some_getLast (nonempty token)]
      rfl
    rw [toList_display_glue, trim_eq_self_iff, begins, ends]
    exact ⟨(trim_eq_self_iff.mp firstTrimmed).1, (trim_eq_self_iff.mp lastTrimmed).2⟩

end Token

/-! ### Lists of tokens -/

/-- A token and those behind it, with each one that clings glued to what stands in front of it. -/
def gluedBehind (front : Token) : List Token → List Token
  | [] => [front]
  | token :: rest =>
    if token.clings then gluedBehind (front.glue token) rest else front :: gluedBehind token rest

/-- The tokens that are read where some tokens were written. -/
def glued : List Token → List Token
  | [] => []
  | token :: rest => gluedBehind token rest

section Glued

variable {front : Token} {rest : List Token}

/-- Behind the first one no token clings any more. -/
theorem exists_gluedBehind (front : Token) (rest : List Token) : ∃ first others,
    gluedBehind front rest = first :: others ∧ first.clings = front.clings ∧
      ∀ token ∈ others, token.clings = false := by
  induction rest generalizing front with
  | nil => exact ⟨front, [], rfl, rfl, by simp⟩
  | cons token rest ih =>
    rw [gluedBehind]
    split
    next =>
      obtain ⟨first, others, shape, begins, separated⟩ := ih (front.glue token)
      exact ⟨first, others, shape, begins.trans Token.clings_glue, separated⟩
    next separate =>
      obtain ⟨first, others, shape, begins, separated⟩ := ih token
      refine ⟨front, _, rfl, rfl, ?_⟩
      rw [shape]
      exact List.forall_mem_cons.mpr ⟨begins.trans (by simpa using separate), separated⟩

/-- Gluing changes nothing of what is written. -/
theorem intercalate_gluedBehind (front : Token) (rest : List Token) :
    [';'].intercalate (displays (gluedBehind front rest)) =
      [';'].intercalate (displays (front :: rest)) := by
  induction rest generalizing front with
  | nil => rfl
  | cons token rest ih =>
    have joined : [';'].intercalate (displays (front :: token :: rest)) =
        front.display.toList ++ ';' :: [';'].intercalate (displays (token :: rest)) := by
      simp [displays, List.intercalate_cons_cons]
    rw [gluedBehind]
    split
    · rw [ih, joined]
      cases rest with
      | nil => simp [displays, Token.toList_display_glue]
      | cons next rest => simp [displays, Token.toList_display_glue, List.intercalate_cons_cons]
    · -- The rest begins with some token, so a semicolon stands in front of it.
      obtain ⟨next, others, shape, -⟩ := exists_gluedBehind token rest
      rw [joined, ← ih token, shape]
      simp [displays, List.intercalate_cons_cons]

theorem isWritable_gluedBehind (first : front.IsWritable)
    (writable : ∀ token ∈ rest, token.IsWritable) :
    ∀ token ∈ gluedBehind front rest, token.IsWritable := by
  induction rest generalizing front with
  | nil => simpa [gluedBehind] using first
  | cons token rest ih =>
    obtain ⟨here, later⟩ := List.forall_mem_cons.mp writable
    rw [gluedBehind]
    split
    next clings => exact ih (first.glue here clings) later
    next => exact List.forall_mem_cons.mpr ⟨first, ih here later⟩

theorem gluedBehind_eq_self_iff :
    gluedBehind front rest = front :: rest ↔ ∀ token ∈ rest, token.clings = false := by
  constructor
  · intro same
    obtain ⟨first, others, shape, -, separated⟩ := exists_gluedBehind front rest
    obtain ⟨-, rfl⟩ := List.cons.inj (shape.symm.trans same)
    exact separated
  · intro separated
    induction rest generalizing front with
    | nil => rfl
    | cons token rest ih =>
      obtain ⟨here, later⟩ := List.forall_mem_cons.mp separated
      rw [gluedBehind, here, if_neg Bool.false_ne_true, ih later]

end Glued

/-- Tokens that can be written are read back, but for those that cling. -/
theorem readTokens_joinTokens_glued {tokens : List Token}
    (writable : ∀ token ∈ tokens, token.IsWritable) :
    readTokens (joinTokens tokens) = .ok (glued tokens) := by
  cases tokens with
  | nil => rfl
  | cons front rest =>
    obtain ⟨first, others, shape, -, separated⟩ := exists_gluedBehind front rest
    obtain ⟨frontWritable, restWritable⟩ := List.forall_mem_cons.mp writable
    have written : ∀ token ∈ gluedBehind front rest, token.IsWritable :=
      isWritable_gluedBehind frontWritable restWritable
    -- The text that was joined is cut in front of the tokens that do not cling.
    have cut : tokenParts (joinTokens (front :: rest)).toList =
        displays (gluedBehind front rest) := by
      refine tokenParts_eq_iff.mpr ⟨by simp [displays, shape], ?_, ?_, ?_⟩
      · rw [toList_joinTokens, intercalate_gluedBehind]
      · exact List.forall_mem_map.mpr fun token member =>
          (Token.isWritable_iff.mp (written token member)).2.1
      · rw [displays, shape, List.map_cons, List.tail_cons]
        exact List.forall_mem_map.mpr fun token member => by
          simpa [Token.clings] using separated token member
    exact readTokens_of_tokenParts cut written

/-- What was read of a text can be written. -/
theorem isWritable_of_readTokens {text : String} {tokens : List Token}
    (done : readTokens text = .ok tokens) : ∀ token ∈ tokens, token.IsWritable := by
  -- The induction goes over the parts, of which only that each is whole must be known.
  have read := readTokens_eq_ok_iff.mp done
  have whole : ∀ part ∈ (tokenParts text.toList).filter fun part => !isBlankText part,
      isTokenPart part = true :=
    fun part member => isTokenPart_of_mem_tokenParts (List.mem_of_mem_filter member)
  generalize (tokenParts text.toList).filter _ = parts at read whole
  clear done
  induction read with
  | nil => simp
  | cons found _ ih =>
    obtain ⟨here, later⟩ := List.forall_mem_cons.mp whole
    exact List.forall_mem_cons.mpr ⟨Token.isWritable_of_read here found, ih later⟩

/--
Where tokens that were read are written again, reading gives them with each token that clings glued
to the one in front of it. So they come back unchanged exactly if behind the first one every word
has a first character other than a colon.
-/
theorem readTokens_joinTokens_of_readTokens {text : String} {tokens : List Token}
    (done : readTokens text = .ok tokens) :
    readTokens (joinTokens tokens) = .ok (glued tokens) ∧
    (readTokens (joinTokens tokens) = .ok tokens ↔
      ∀ token ∈ tokens.tail, token.word ≠ "" ∧ token.word.toList.head? ≠ some ':') := by
  have again := readTokens_joinTokens_glued (isWritable_of_readTokens done)
  refine ⟨again, ?_⟩
  rw [again, Except.ok.injEq]
  cases tokens with
  | nil => simp [glued]
  | cons front rest =>
    rw [glued, gluedBehind_eq_self_iff, List.tail_cons]
    refine forall₂_congr fun token _ => ?_
    rw [← Bool.not_eq_true, Token.clings_iff, not_or]

/-- A noun with a colon as a word behind it, and a blank in between. -/
def colonText : String := "밥:NNG; ::SP"

def colonTokens : List Token := [⟨"밥", "NNG"⟩, ⟨":", "SP"⟩]

/-- The colon clings to the noun, and the two are read as one token. -/
theorem reread_colonTokens :
    readTokens colonText = .ok colonTokens ∧
      readTokens (joinTokens colonTokens) = .ok (glued colonTokens) ∧
      glued colonTokens = [⟨"밥:NNG;:", "SP"⟩] ∧
      (readTokens (joinTokens colonTokens) = .ok colonTokens ↔
        ∀ token ∈ colonTokens.tail, token.word ≠ "" ∧ token.word.toList.head? ≠ some ':') := by
  have read : readTokens colonText = .ok colonTokens := by decide +kernel
  obtain ⟨again, same⟩ := readTokens_joinTokens_of_readTokens read
  exact ⟨read, again, by decide +kernel, same⟩

/-- What was read is not always what is read of the same tokens when they are written again. -/
theorem not_forall_readTokens_joinTokens :
    ¬ ∀ text tokens, readTokens text = .ok tokens →
      readTokens (joinTokens tokens) = .ok tokens := by
  intro law
  have read : readTokens colonText = .ok colonTokens := by decide +kernel
  have other : readTokens (joinTokens colonTokens) ≠ .ok colonTokens := by decide +kernel
  exact other (law colonText colonTokens read)

end Constituency
