import Constituency.Proofs.Token.RoundTrip

/-!
# The colons of a token list

Each token that is written or read brings a colon with it. So a text has no more tokens than colons,
and in joined tokens a tag stands between a colon and the next separator, whatever the words and the
tags hold.
-/
namespace Constituency

open Constituency.Text

/-! ### Reading -/

theorem colon_mem_of_read {part : List Char} {token : Token} (done : Token.read part = .ok token) :
    ':' ∈ part := by
  obtain ⟨shape, -, -⟩ := Token.read_ok_iff.mp done
  have trimmed : ':' ∈ trim part := by
    rw [shape, Token.toList_display]
    simp
  exact (trim_sublist part).subset trimmed

/-- Of the texts between separators no more hold a character than it stands there in all. -/
theorem length_filter_le_count_intercalate {separator c : Char} {parts : List (List Char)}
    {keeps : List Char → Bool} (held : ∀ part ∈ parts.filter keeps, c ∈ part) :
    (parts.filter keeps).length ≤ ([separator].intercalate parts).count c := by
  induction parts with
  | nil => exact Nat.zero_le _
  | cons part others ih =>
    have bounded := ih fun text member => held text (by
      rw [List.filter_cons]
      split
      · exact List.mem_cons_of_mem _ member
      · exact member)
    have joined : part.count c + ([separator].intercalate others).count c ≤
        ([separator].intercalate (part :: others)).count c := by
      cases others with
      | nil => simp
      | cons next later =>
        rw [List.intercalate_cons_cons, List.count_append, List.count_append]
        omega
    by_cases kept : keeps part = true
    · have here : 0 < part.count c := List.count_pos_iff.mpr (held part (by simp [kept]))
      rw [List.filter_cons_of_pos kept, List.length_cons]
      omega
    · rw [List.filter_cons_of_neg kept]
      omega

/-- No text holds more tokens than colons. -/
theorem length_le_count_of_readTokens {text : String} {tokens : List Token}
    (done : readTokens text = .ok tokens) : tokens.length ≤ text.toList.count ':' := by
  have read := readTokens_eq_ok_iff.mp done
  have held := ((List.forall₂_and_left _ _).mp
    (read.imp fun _ _ found => ⟨colon_mem_of_read found, found⟩)).1
  have bounded := @length_filter_le_count_intercalate ';' _ _ _ held
  rwa [intercalate_tokenParts, read.length_eq] at bounded

/-! ### Writing -/

/-- The part of a tag in front of its first semicolon. -/
def Token.leadingTag (token : Token) : List Char := token.tag.toList.takeWhile (· != ';')

/-- What stands behind a separator does not matter for what stands in front of it. -/
theorem takeWhile_append_separator (tag rest : List Char) :
    (tag ++ ';' :: rest).takeWhile (· != ';') = tag.takeWhile (· != ';') := by
  induction tag with
  | nil => rfl
  | cons c tag ih =>
    rw [List.cons_append, List.takeWhile_cons, List.takeWhile_cons, ih]

/-- In joined tokens each tag stands behind a colon, up to a separator or the end of the text. -/
theorem exists_tag_of_mem {tokens : List Token} {token : Token} (member : token ∈ tokens) :
    ∃ before after, (joinTokens tokens).toList = before ++ ':' :: after ∧
      after.takeWhile (· != ';') = token.leadingTag := by
  rw [toList_joinTokens]
  induction tokens with
  | nil => contradiction
  | cons first others ih =>
    cases others with
    | nil =>
      obtain rfl := List.mem_singleton.mp member
      exact ⟨token.word.toList, token.tag.toList, by simp [displays, Token.toList_display], rfl⟩
    | cons second others =>
      have joined : [';'].intercalate (displays (first :: second :: others)) =
          first.display.toList ++ ';' :: [';'].intercalate (displays (second :: others)) := by
        simp [displays, List.intercalate_cons_cons]
      rw [joined]
      rcases List.mem_cons.mp member with rfl | later
      · exact ⟨token.word.toList, _, by rw [Token.toList_display, List.append_assoc]; rfl,
          takeWhile_append_separator token.tag.toList _⟩
      · obtain ⟨before, after, shape, tag⟩ := ih later
        exact ⟨first.display.toList ++ ';' :: before, after, by simp [shape], tag⟩

end Constituency
