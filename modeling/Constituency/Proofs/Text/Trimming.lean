import Constituency.Text.Blank

/-!
# Trimming around a character

What is dropped at one end of a text stops at the first character of another kind. So a text is
trimmed on both sides of a character that is no blank as if nothing stood on the other side.
-/
namespace Constituency.Text

theorem dropWhile_append_cons {skips : Char → Bool} {d : Char} (text rest : List Char)
    (stops : skips d = false) :
    (text ++ d :: rest).dropWhile skips = text.dropWhile skips ++ d :: rest := by
  induction text with
  | nil => rw [List.nil_append, List.dropWhile_cons_of_neg (by simp [stops])]; rfl
  | cons c text ih =>
    rw [List.cons_append, List.dropWhile_cons, List.dropWhile_cons, ih]
    split <;> rfl

theorem takeWhile_append_cons {takes : Char → Bool} {d : Char} (text rest : List Char)
    (stops : takes d = false) : (text ++ d :: rest).takeWhile takes = text.takeWhile takes := by
  induction text with
  | nil => rw [List.nil_append, List.takeWhile_cons_of_neg (by simp [stops])]; rfl
  | cons c text ih => rw [List.cons_append, List.takeWhile_cons, List.takeWhile_cons, ih]

theorem trimEnd_append_cons {d : Char} (front back : List Char) (solid : isBlank d = false) :
    trimEnd (front ++ d :: back) = front ++ d :: trimEnd back := by
  rw [trimEnd, List.reverse_append, List.reverse_cons, List.append_assoc, List.singleton_append,
    dropWhile_append_cons _ _ solid, List.reverse_append, List.reverse_cons, List.reverse_reverse,
    List.append_assoc, List.singleton_append]
  rfl

theorem trimEnd_eq_nil_iff {text : List Char} : trimEnd text = [] ↔ isBlankText text = true := by
  rw [trimEnd, List.reverse_eq_nil_iff, ← trimStart, trimStart_eq_nil_iff, isBlankText,
    isBlankText, List.all_reverse]

theorem trim_append_cons {d : Char} (front back : List Char) (solid : isBlank d = false) :
    trim (front ++ d :: back) = trimStart front ++ d :: trimEnd back := by
  rw [trim, trimStart, dropWhile_append_cons front back solid, ← trimStart,
    trimEnd_append_cons _ _ solid]

/-- A text is trimmed at its end only exactly if it does not begin with a blank. -/
theorem trimEnd_eq_trim_iff {text : List Char} (some : isBlankText text = false) :
    trimEnd text = trim text ↔ ∀ c ∈ text.head?, isBlank c = false := by
  constructor
  · intro same c first
    obtain ⟨d, member, solid⟩ : ∃ d ∈ text, isBlank d = false := by
      simpa [isBlankText] using some
    obtain ⟨front, back, rfl⟩ := List.append_of_mem member
    obtain ⟨start, -⟩ := trim_eq_self_iff.mp (trim_trim (front ++ d :: back))
    rw [← same, trimEnd_append_cons front back solid] at start
    -- What is left begins as before.
    refine start c ?_
    cases front <;> simpa using first
  · intro start
    rw [trim, trimStart_eq_self_iff.mpr start]

end Constituency.Text
