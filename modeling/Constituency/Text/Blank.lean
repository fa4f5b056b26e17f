/-!
# Blank characters

A character is blank when it has the Unicode property White_Space. Trimming, the gaps between
lexemes and the class `\s` of a tag pattern all use this one set, so they agree on what a gap is.
-/
namespace Constituency.Text

/-- The 25 characters of the property White_Space. -/
def isBlank (c : Char) : Bool :=
  let n := c.toNat
  (9 ≤ n && n ≤ 13) || n == 0x20 || n == 0x85 || n == 0xA0 || n == 0x1680 ||
    (0x2000 ≤ n && n ≤ 0x200A) || n == 0x2028 || n == 0x2029 || n == 0x202F || n == 0x205F ||
    n == 0x3000

def trimStart (text : List Char) : List Char := text.dropWhile isBlank

def trimEnd (text : List Char) : List Char := (text.reverse.dropWhile isBlank).reverse

def trim (text : List Char) : List Char := trimEnd (trimStart text)

/-- A text of blanks only, the empty one included. -/
def isBlankText (text : List Char) : Bool := text.all isBlank

/-! ### Trimming -/

theorem trimStart_eq_self_iff {text : List Char} :
    trimStart text = text ↔ ∀ c ∈ text.head?, isBlank c = false := by
  cases text with
  | nil => simp [trimStart]
  | cons c rest =>
    rw [trimStart, List.dropWhile_cons]
    by_cases blank : isBlank c = true
    · have shorter := (List.dropWhile_sublist isBlank (l := rest)).length_le
      have changed : rest.dropWhile isBlank ≠ c :: rest := fun same => by
        rw [same, List.length_cons] at shorter
        omega
      simpa [blank] using changed
    · simp [blank]

theorem trimEnd_eq_self_iff {text : List Char} :
    trimEnd text = text ↔ ∀ c ∈ text.getLast?, isBlank c = false := by
  rw [trimEnd, List.reverse_eq_iff, List.getLast?_eq_head?_reverse]
  exact trimStart_eq_self_iff

theorem trimStart_sublist (text : List Char) : (trimStart text).Sublist text :=
  List.dropWhile_sublist _

theorem trimEnd_sublist (text : List Char) : (trimEnd text).Sublist text := by
  have stop := (List.dropWhile_sublist isBlank (l := text.reverse)).reverse
  rwa [List.reverse_reverse] at stop

theorem trim_sublist (text : List Char) : (trim text).Sublist text :=
  (trimEnd_sublist (trimStart text)).trans (trimStart_sublist text)

theorem trimStart_eq_nil_iff {text : List Char} :
    trimStart text = [] ↔ isBlankText text = true := by
  induction text with
  | nil => simp [trimStart, isBlankText]
  | cons c rest ih =>
    rw [trimStart, isBlankText] at ih
    cases blank : isBlank c <;> simp [trimStart, isBlankText, blank, ih]

theorem trim_eq_nil_iff {text : List Char} : trim text = [] ↔ isBlankText text = true := by
  rw [← trimStart_eq_nil_iff, trim, trimEnd, List.reverse_eq_nil_iff]
  constructor
  · intro allBlank
    have blank := trimStart_eq_nil_iff.mp allBlank
    -- What does not begin with a blank and holds blanks only is empty.
    cases shape : trimStart text with
    | nil => rfl
    | cons c rest =>
      have stop := List.head?_dropWhile_not isBlank text
      rw [← trimStart, shape] at stop
      rw [isBlankText, List.all_reverse, shape, List.all_cons, stop] at blank
      contradiction
  · intro none
    simp [none]

/-- What begins and ends with no blank is not changed by trimming. -/
theorem trim_eq_self_iff {text : List Char} : trim text = text ↔
    (∀ c ∈ text.head?, isBlank c = false) ∧ ∀ c ∈ text.getLast?, isBlank c = false := by
  rw [← trimStart_eq_self_iff, ← trimEnd_eq_self_iff]
  constructor
  · intro same
    have start : trimStart text = text := by
      refine (trimStart_sublist text).eq_of_length_le ?_
      calc text.length = (trim text).length := by rw [same]
        _ ≤ (trimStart text).length := (trimEnd_sublist (trimStart text)).length_le
    exact ⟨start, by rwa [trim, start] at same⟩
  · rintro ⟨start, stop⟩
    rw [trim, start, stop]

/-- Trimming takes away blanks at both ends and nothing else. -/
theorem exists_trim (text : List Char) : ∃ front back,
    text = front ++ trim text ++ back ∧ isBlankText front = true ∧ isBlankText back = true := by
  have first := List.takeWhile_append_dropWhile (p := isBlank) (l := text)
  have last := congrArg List.reverse
    (List.takeWhile_append_dropWhile (p := isBlank) (l := (trimStart text).reverse))
  rw [List.reverse_append, List.reverse_reverse] at last
  refine ⟨text.takeWhile isBlank, ((trimStart text).reverse.takeWhile isBlank).reverse, ?_, ?_, ?_⟩
  · rw [List.append_assoc, trim, trimEnd, last, trimStart, first]
  · exact List.all_takeWhile
  · rw [isBlankText, List.all_reverse]
    exact List.all_takeWhile

theorem trim_trim (text : List Char) : trim (trim text) = trim text := by
  refine trim_eq_self_iff.mpr ⟨fun c first => ?_, fun c last => ?_⟩
  · -- What is trimmed at the end still begins as before, if anything is left.
    have begins := List.head?_dropWhile_not isBlank text
    rw [← trimStart] at begins
    obtain ⟨rest, shape⟩ : trim text <+: trimStart text :=
      List.reverse_suffix.mp ((List.reverse_reverse _).symm ▸ List.dropWhile_suffix _)
    rw [← shape, List.head?_append, first] at begins
    simpa using begins
  · have ends := List.head?_dropWhile_not isBlank (trimStart text).reverse
    rw [trim, trimEnd, List.getLast?_reverse] at last
    rw [last] at ends
    simpa using ends

end Constituency.Text
