import Constituency.Proofs.Text.Lexeme
import Constituency.Proofs.Token.Parts
import Mathlib.Data.List.Forall2

/-!
# Token lists that are read back

Which lists of tokens survive being written and read: those whose separators are the only ones in
the text, and whose texts reading does not trim. That no other list survives is seen from lengths.
Reading makes at most one token of each part, and none is longer than its part; so if the tokens
that are read fill the whole text, the parts are the tokens as they were written.
-/
namespace Constituency

open Constituency.Text

/-! ### Single tokens -/

/-- A token that is read back wherever it stands alone. -/
structure Token.IsWritable (token : Token) : Prop where
  tag_nonempty : token.tag ≠ ""
  colon_tag : ':' ∉ token.tag.toList
  semicolon_tag : ';' ∉ token.tag.toList
  /-- The tag does not end in a blank. -/
  tag_end : ∀ c ∈ token.tag.toList.getLast?, isBlank c = false
  /-- The word does not begin with a blank. -/
  word_start : ∀ c ∈ token.word.toList.head?, isBlank c = false
  /-- Each semicolon of the word has a colon right behind it or is the last character. -/
  word_semicolons : ∀ before rest, token.word.toList = before ++ ';' :: rest →
    rest = [] ∨ rest.head? = some ':'

theorem Token.toList_display (token : Token) :
    token.display.toList = token.word.toList ++ ':' :: token.tag.toList := by
  simp [Token.display]

theorem Token.read_ok_iff {text : List Char} {token : Token} :
    Token.read text = .ok token ↔
      trim text = token.display.toList ∧ ':' ∉ token.tag.toList ∧ token.tag ≠ "" := by
  unfold Token.read
  cases cut : splitLast ':' (trim text) with
  | none =>
    have absent := splitLast_eq_none.mp cut
    have : trim text ≠ token.display.toList := fun same => by
      simp [same, Token.toList_display] at absent
    simp [this]
  | some parts =>
    obtain ⟨word, tag⟩ := parts
    obtain ⟨shape, absent⟩ := splitLast_eq cut
    constructor
    · intro done
      dsimp only at done
      split at done
      next => contradiction
      next some =>
        obtain rfl := Except.ok.inj done
        refine ⟨?_, ?_, ?_⟩
        · simp [Token.toList_display, shape]
        · simpa using absent
        · simpa using some
    · rintro ⟨whole, colon, some⟩
      rw [whole, Token.toList_display, splitLast_append _ colon] at cut
      obtain ⟨rfl, rfl⟩ := Prod.mk.inj (Option.some.inj cut)
      have nonempty : ¬ token.tag.toList.isEmpty = true := by simpa using some
      dsimp only
      rw [if_neg nonempty, String.ofList_toList, String.ofList_toList]

theorem isTokenPart_iff {text : List Char} : isTokenPart text = true ↔
    ∀ before rest, text = before ++ ';' :: rest → rest.head? = some ':' := by
  induction text with
  | nil => simp
  | cons c text ih =>
    rw [isTokenPart_cons, ih]
    constructor
    · rintro ⟨first, later⟩ before rest shape
      cases before with
      | nil =>
        obtain ⟨rfl, rfl⟩ := List.cons.inj shape
        exact first rfl
      | cons d before => exact later before rest (List.cons.inj shape).2
    · intro all
      refine ⟨fun semicolon => all [] text (semicolon ▸ rfl), fun before rest shape => ?_⟩
      exact all (c :: before) rest (shape ▸ rfl)

/-- What is written for a token is one part exactly if no semicolon in it separates anything. -/
theorem isTokenPart_display {token : Token} (colon : ':' ∉ token.tag.toList) :
    isTokenPart token.display.toList = true ↔ ';' ∉ token.tag.toList ∧
      ∀ before rest, token.word.toList = before ++ ';' :: rest →
        rest = [] ∨ rest.head? = some ':' := by
  rw [isTokenPart_iff, Token.toList_display]
  constructor
  · intro all
    constructor
    · intro semicolon
      obtain ⟨before, rest, shape⟩ := List.append_of_mem semicolon
      have behind := all (token.word.toList ++ ':' :: before) rest (by simp [shape])
      exact colon (shape ▸ List.mem_append_right _ (List.mem_cons_of_mem _
        (List.mem_of_mem_head? behind)))
    · intro before rest shape
      have behind := all before (rest ++ ':' :: token.tag.toList) (by simp [shape])
      cases rest with
      | nil => exact .inl rfl
      | cons c rest => exact .inr behind
  · rintro ⟨semicolon, word⟩ before rest shape
    rcases List.append_eq_append_iff.mp shape with ⟨skipped, -, tag⟩ | ⟨behind, inside, cut⟩
    · -- The semicolon would stand behind the colon, and so in the tag.
      cases skipped with
      | nil => simp at tag
      | cons c skipped =>
        obtain ⟨-, tag⟩ := List.cons.inj tag
        exact absurd (tag ▸ List.mem_append_right _ (List.mem_cons_self ..)) semicolon
    · cases behind with
      | nil => simp at cut
      | cons c behind =>
        rw [List.cons_append, List.cons.injEq] at cut
        obtain ⟨rfl, rfl⟩ := cut
        rcases word before behind inside with rfl | colon
        · rfl
        · rw [List.head?_append, colon]
          rfl

theorem Token.trim_display_iff {token : Token} (tagged : token.tag ≠ "") :
    trim token.display.toList = token.display.toList ↔
      (∀ c ∈ token.word.toList.head?, isBlank c = false) ∧
        ∀ c ∈ token.tag.toList.getLast?, isBlank c = false := by
  have nonempty : token.tag.toList ≠ [] := by simpa using tagged
  have last : (token.word.toList ++ ':' :: token.tag.toList).getLast? =
      token.tag.toList.getLast? := by
    rw [List.getLast?_append_cons, List.getLast?_cons, List.getLast?_eq_some_getLast nonempty]
    rfl
  rw [trim_eq_self_iff, Token.toList_display, last]
  refine and_congr_left' ?_
  cases word : token.word.toList with
  | nil => simp [show isBlank ':' = false by decide]
  | cons c rest => rfl

/-- A token can be written if what is written for it is one part that reading does not trim. -/
theorem Token.isWritable_iff {token : Token} : token.IsWritable ↔
    (':' ∉ token.tag.toList ∧ token.tag ≠ "") ∧
      isTokenPart token.display.toList = true ∧
      trim token.display.toList = token.display.toList := by
  constructor
  · rintro ⟨tagged, colon, semicolon, tagEnd, wordStart, word⟩
    exact ⟨⟨colon, tagged⟩, (isTokenPart_display colon).mpr ⟨semicolon, word⟩,
      (Token.trim_display_iff tagged).mpr ⟨wordStart, tagEnd⟩⟩
  · rintro ⟨⟨colon, tagged⟩, part, trimmed⟩
    obtain ⟨semicolon, word⟩ := (isTokenPart_display colon).mp part
    obtain ⟨wordStart, tagEnd⟩ := (Token.trim_display_iff tagged).mp trimmed
    exact ⟨tagged, colon, semicolon, tagEnd, wordStart, word⟩

/-- The semicolon in front of a token separates it exactly if a word without a colon begins it. -/
theorem Token.head?_display_ne_colon_iff {token : Token} :
    token.display.toList.head? ≠ some ':' ↔
      token.word ≠ "" ∧ token.word.toList.head? ≠ some ':' := by
  rw [Token.toList_display, ne_eq, ne_eq, ← String.toList_eq_nil_iff]
  cases token.word.toList <;> simp

theorem Token.isBlankText_display (token : Token) : isBlankText token.display.toList = false := by
  rw [Token.toList_display, isBlankText, List.all_append, List.all_cons]
  simp [show isBlank ':' = false by decide]

/-! ### Lists of tokens -/

/-- A traversal that may fail succeeds exactly if each of its steps does. -/
theorem mapM_eq_ok_iff {ε α β : Type} {f : α → Except ε β} {xs : List α} {ys : List β} :
    xs.mapM f = .ok ys ↔ List.Forall₂ (fun x y => f x = .ok y) xs ys := by
  induction xs generalizing ys with
  | nil => cases ys <;> simp [pure, Except.pure]
  | cons x xs ih =>
    simp only [List.mapM_cons, bind_eq_ok_iff, ih]
    constructor
    · rintro ⟨y, first, ys', later, same⟩
      obtain rfl := Except.ok.inj same
      exact .cons first later
    · rintro (_ | ⟨first, later⟩)
      exact ⟨_, first, _, later, rfl⟩

theorem readTokens_eq_ok_iff {text : String} {tokens : List Token} :
    readTokens text = .ok tokens ↔
      List.Forall₂ (fun part token => Token.read part = .ok token)
        ((tokenParts text.toList).filter fun part => !isBlankText part) tokens :=
  mapM_eq_ok_iff

/-- The texts of the tokens of a list. -/
def displays (tokens : List Token) : List (List Char) :=
  tokens.map fun token => token.display.toList

theorem toList_joinTokens (tokens : List Token) :
    (joinTokens tokens).toList = [';'].intercalate (displays tokens) := by
  rw [joinTokens, String.toList_intercalate, List.map_map]
  rfl

/-- The tokens that are read are the trimmed parts that hold more than blanks. -/
theorem displays_of_readTokens {text : String} {tokens : List Token}
    (done : readTokens text = .ok tokens) :
    displays tokens =
      ((tokenParts text.toList).filter fun part => !isBlankText part).map trim := by
  have read := readTokens_eq_ok_iff.mp done
  have trimmed : List.Forall₂ (fun part token => trim part = token.display.toList)
      ((tokenParts text.toList).filter fun part => !isBlankText part) tokens :=
    read.imp fun part token found => (Token.read_ok_iff.mp found).1
  rw [displays, eq_comm, ← List.forall₂_eq_eq_eq, List.forall₂_map_left_iff,
    List.forall₂_map_right_iff]
  exact trimmed

/-- Every token that is read has a tag of its own. -/
theorem tagged_of_readTokens {text : String} {tokens : List Token}
    (done : readTokens text = .ok tokens) :
    ∀ token ∈ tokens, ':' ∉ token.tag.toList ∧ token.tag ≠ "" := by
  have read := readTokens_eq_ok_iff.mp done
  clear done
  generalize (tokenParts text.toList).filter _ = parts at read
  induction read with
  | nil => simp
  | cons found _ ih => exact List.forall_mem_cons.mpr ⟨(Token.read_ok_iff.mp found).2, ih⟩

/-- The length of the parts, each with a separator behind it. -/
def weight : List (List Char) → Nat
  | [] => 0
  | part :: others => part.length + 1 + weight others

@[simp] theorem weight_cons (part : List Char) (others : List (List Char)) :
    weight (part :: others) = part.length + 1 + weight others := rfl

theorem weight_eq_length_intercalate {parts : List (List Char)} (some : parts ≠ []) :
    weight parts = ([';'].intercalate parts).length + 1 := by
  induction parts with
  | nil => contradiction
  | cons part others ih =>
    cases others with
    | nil => simp [weight]
    | cons next later =>
      rw [weight_cons, ih (List.cons_ne_nil next later), List.intercalate_cons_cons]
      simp only [List.length_append, List.length_singleton]
      omega

theorem weight_trimmed_le (parts : List (List Char)) :
    weight ((parts.filter fun part => !isBlankText part).map trim) ≤ weight parts := by
  induction parts with
  | nil => exact Nat.le_refl _
  | cons part others ih =>
    have shorter := (trim_sublist part).length_le
    rw [List.filter_cons]
    split
    next =>
      rw [List.map_cons, weight_cons, weight_cons]
      omega
    next =>
      rw [weight_cons]
      omega

/-- If trimming and dropping blank parts loses no length, it changes nothing. -/
theorem trimmed_of_weight_le {parts : List (List Char)}
    (full : weight parts ≤ weight ((parts.filter fun part => !isBlankText part).map trim)) :
    ∀ part ∈ parts, isBlankText part = false ∧ trim part = part := by
  induction parts with
  | nil => simp
  | cons part others ih =>
    have bounded := weight_trimmed_le others
    have shorter := (trim_sublist part).length_le
    rw [List.filter_cons] at full
    split at full
    next filled =>
      rw [List.map_cons, weight_cons, weight_cons] at full
      have whole : trim part = part := (trim_sublist part).eq_of_length_le (by omega)
      exact List.forall_mem_cons.mpr ⟨⟨by simpa using filled, whole⟩, ih (by omega)⟩
    next =>
      rw [weight_cons] at full
      omega

/-- A list that is read back is cut where its tokens were joined. -/
theorem tokenParts_of_read_joinTokens {tokens : List Token} (some : tokens ≠ [])
    (done : readTokens (joinTokens tokens) = .ok tokens) :
    tokenParts (joinTokens tokens).toList = displays tokens ∧
      ∀ token ∈ tokens, trim token.display.toList = token.display.toList := by
  have read := displays_of_readTokens done
  set parts := tokenParts (joinTokens tokens).toList with cut
  have full : weight parts = weight (displays tokens) := by
    have written : displays tokens ≠ [] := by simpa [displays] using some
    rw [weight_eq_length_intercalate (tokenParts_ne_nil _), intercalate_tokenParts,
      toList_joinTokens, ← weight_eq_length_intercalate written]
  -- The tokens fill the text, so reading has dropped no part and trimmed none.
  have trimmed := trimmed_of_weight_le (Nat.le_of_eq (full.trans (congrArg weight read)))
  have same : displays tokens = parts := by
    rw [read, List.filter_eq_self.mpr fun part member => by simp [(trimmed part member).1]]
    exact (List.map_congr_left fun part member => (trimmed part member).2).trans (List.map_id _)
  refine ⟨same.symm, fun token member => (trimmed _ ?_).2⟩
  rw [← same]
  exact List.mem_map_of_mem member

/-- Tokens that can be written are read where the parts of a text are their texts. -/
theorem readTokens_of_tokenParts {text : String} {tokens : List Token}
    (cut : tokenParts text.toList = displays tokens)
    (writable : ∀ token ∈ tokens, token.IsWritable) : readTokens text = .ok tokens := by
  have filled : (displays tokens).filter (fun part => !isBlankText part) = displays tokens := by
    refine List.filter_eq_self.mpr (List.forall_mem_map.mpr fun token _ => ?_)
    rw [token.isBlankText_display]
    rfl
  rw [readTokens_eq_ok_iff, cut, filled, displays, List.forall₂_map_left_iff, List.forall₂_same]
  intro token member
  obtain ⟨tagged, -, trimmed⟩ := Token.isWritable_iff.mp (writable token member)
  exact Token.read_ok_iff.mpr ⟨trimmed, tagged⟩

/--
Writing a list of tokens and reading it gives the list back exactly if every token can be written
and all tokens behind the first one have a word that does not begin with a colon.
-/
theorem readTokens_joinTokens_iff (tokens : List Token) :
    readTokens (joinTokens tokens) = .ok tokens ↔
      (∀ token ∈ tokens, token.IsWritable) ∧
      ∀ token ∈ tokens.tail, token.word ≠ "" ∧ token.word.toList.head? ≠ some ':' := by
  rcases eq_or_ne tokens [] with rfl | some
  · have read : readTokens (joinTokens []) = .ok [] := rfl
    simp [read]
  have written : displays tokens ≠ [] := by simpa [displays] using some
  have begins : (∀ token ∈ tokens.tail, token.word ≠ "" ∧ token.word.toList.head? ≠ .some ':') ↔
      ∀ part ∈ (displays tokens).tail, part.head? ≠ .some ':' := by
    simp only [displays, ← List.map_tail, List.forall_mem_map, Token.head?_display_ne_colon_iff]
  rw [begins]
  constructor
  · -- What the parts of the text are is known, and they are the tokens as they were written.
    intro done
    obtain ⟨cut, trimmed⟩ := tokenParts_of_read_joinTokens some done
    obtain ⟨-, -, whole, separated⟩ := tokenParts_eq_iff.mp cut
    refine ⟨fun token member => ?_, separated⟩
    exact Token.isWritable_iff.mpr ⟨tagged_of_readTokens done token member,
      whole _ (List.mem_map_of_mem member), trimmed token member⟩
  · -- The text is cut where it was joined.
    rintro ⟨writable, separated⟩
    refine readTokens_of_tokenParts ?_ writable
    refine tokenParts_eq_iff.mpr ⟨written, (toList_joinTokens tokens).symm, ?_, separated⟩
    exact List.forall_mem_map.mpr fun token member =>
      (Token.isWritable_iff.mp (writable token member)).2.1

end Constituency
