import Constituency.Text.Blank
import Constituency.Text.Split

/-!
# Lines of a text

A text is lined by some lines if each of them is followed by a line feed, which the last one may go
without unless it is empty. Every text is lined in exactly one way. Cutting a text into lines also
drops a carriage return in front of a line feed; but that is a blank, so what is left of the lines
when they are trimmed is the same.
-/
namespace Constituency.Text

theorem splitFirst_eq_none {sep : Char} {text : List Char} :
    splitFirst sep text = none ↔ sep ∉ text := by
  induction text with
  | nil => simp [splitFirst]
  | cons c rest ih =>
    by_cases equal : c = sep
    · simp [splitFirst, equal]
    · simp [splitFirst, equal, Ne.symm equal, ih]

/-- Blanks behind a text do not change what is left of it when it is trimmed. -/
theorem trim_append_of_isBlankText {back : List Char} (text : List Char)
    (blank : isBlankText back = true) : trim (text ++ back) = trim text := by
  have all : ∀ c ∈ back, isBlank c = true := List.all_eq_true.mp blank
  by_cases blankText : isBlankText text = true
  · have both : isBlankText (text ++ back) = true := by
      rw [isBlankText, List.all_append]
      exact Bool.and_eq_true_iff.mpr ⟨blankText, blank⟩
    rw [trim_eq_nil_iff.mpr both, trim_eq_nil_iff.mpr blankText]
  · have some : trimStart text ≠ [] := fun none => blankText (trimStart_eq_nil_iff.mp none)
    have start : trimStart (text ++ back) = trimStart text ++ back := by
      rw [trimStart, List.dropWhile_append, if_neg (by simpa [trimStart] using some)]
      rfl
    rw [trim, start, trimEnd, List.reverse_append,
      List.dropWhile_append_of_pos fun c member => all c (List.mem_reverse.mp member)]
    rfl

/-! ### Lines -/

/-- The lines of a text, without the line feeds that end them. -/
inductive Lined : List Char → List (List Char) → Prop where
  | none : Lined [] []
  | unended {line : List Char} (some : line ≠ []) (inner : '\n' ∉ line) : Lined line [line]
  | ended {line rest : List Char} {others : List (List Char)} (inner : '\n' ∉ line)
      (more : Lined rest others) : Lined (line ++ '\n' :: rest) (line :: others)

theorem exists_lined (text : List Char) : ∃ lines, Lined text lines := by
  induction length : text.length using Nat.strongRecOn generalizing text with
  | _ size ih =>
    -- The first line feed ends the first line; what is behind it is shorter.
    cases cut : splitFirst '\n' text with
    | some parts =>
      obtain ⟨rfl, inner⟩ := splitFirst_eq cut
      have shorter : parts.2.length < size := by
        simp only [List.length_append, List.length_cons] at length
        omega
      obtain ⟨others, more⟩ := ih _ shorter parts.2 rfl
      exact ⟨parts.1 :: others, .ended inner more⟩
    | none =>
      have inner := splitFirst_eq_none.mp cut
      by_cases empty : text = []
      · exact ⟨[], empty ▸ .none⟩
      · exact ⟨[text], .unended empty inner⟩

theorem Lined.unique {text : List Char} {some others : List (List Char)}
    (lined : Lined text some) (again : Lined text others) : others = some := by
  induction lined generalizing others with
  | none =>
    generalize equal : [] = text at again
    cases again with
    | none => rfl
    | unended some => exact absurd equal.symm some
    | ended => simp at equal
  | @unended line some inner =>
    generalize equal : line = text at again
    cases again with
    | none => exact absurd equal some
    | unended => rfl
    | ended => simp [equal] at inner
  | @ended line rest others inner more ih =>
    generalize equal : line ++ '\n' :: rest = text at again
    cases again with
    | none => simp at equal
    | unended _ whole => simp [← equal] at whole
    | ended first later =>
      -- Both begin with what stands in front of the first line feed.
      have cut := congrArg (splitFirst '\n') equal
      rw [splitFirst_append inner, splitFirst_append first] at cut
      obtain ⟨rfl, rfl⟩ := Prod.mk.inj (Option.some.inj cut)
      rw [ih later]

/-! ### Cutting into lines -/

theorem lines_cons_of_ne {c : Char} {rest : List Char} (other : c ≠ '\n')
    (apart : c = '\r' → rest.head? ≠ some '\n') :
    lines (c :: rest) =
      match lines rest with
      | [] => [[c]]
      | first :: others => (c :: first) :: others := by
  rw [lines]
  · exact if_neg other
  · rintro after rfl rfl
    exact apart rfl rfl

theorem lines_of_not_mem {line : List Char} (some : line ≠ []) (inner : '\n' ∉ line) :
    lines line = [line] := by
  induction line with
  | nil => contradiction
  | cons c rest ih =>
    obtain ⟨other, inner⟩ := List.ne_and_not_mem_of_not_mem_cons inner
    rw [lines_cons_of_ne other.symm fun _ first => inner (List.mem_of_mem_head? first)]
    by_cases empty : rest = []
    · simp [empty, lines]
    · rw [ih empty inner]

/-- A line feed ends a line, which loses a carriage return at its end. -/
theorem exists_lines_append {line : List Char} (inner : '\n' ∉ line) (rest : List Char) :
    ∃ kept, lines (line ++ '\n' :: rest) = kept :: lines rest ∧
      (kept = line ∨ kept ++ ['\r'] = line) := by
  induction line with
  | nil => exact ⟨[], by simp [lines], .inl rfl⟩
  | cons c more ih =>
    obtain ⟨other, inner⟩ := List.ne_and_not_mem_of_not_mem_cons inner
    by_cases last : c = '\r' ∧ more = []
    · -- The carriage return stands right in front of the line feed.
      obtain ⟨rfl, rfl⟩ := last
      exact ⟨[], by simp [lines], .inr rfl⟩
    · obtain ⟨kept, cut, same⟩ := ih inner
      refine ⟨c :: kept, ?_, same.imp (congrArg _) (congrArg _)⟩
      rw [List.cons_append, lines_cons_of_ne other.symm, cut]
      intro carriage first
      cases more with
      | nil => exact last ⟨carriage, rfl⟩
      | cons next others => exact inner (by simp_all)

theorem Lined.map_trim_lines {text : List Char} {some : List (List Char)}
    (lined : Lined text some) : (lines text).map trim = some.map trim := by
  induction lined with
  | none => rfl
  | unended some inner => rw [lines_of_not_mem some inner]
  | @ended line rest others inner more ih =>
    obtain ⟨kept, cut, same⟩ := exists_lines_append inner rest
    have trimmed : trim kept = trim line := by
      rcases same with rfl | rfl
      · rfl
      · exact (trim_append_of_isBlankText kept (by decide)).symm
    rw [cut, List.map_cons, List.map_cons, trimmed, ih]

end Constituency.Text
