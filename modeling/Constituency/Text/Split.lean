/-!
# Cutting a text at a character

Every small format of this library is cut at one character: a token at its last colon, a rename at
its first one, a replacement at each semicolon, an outline at each line end. The functions here
keep all other characters in order, so gluing the parts with the separator gives the text back.
-/
namespace Constituency.Text

/-- The parts before and after the first `sep`, if there is one. -/
def splitFirst (sep : Char) : List Char → Option (List Char × List Char)
  | [] => none
  | c :: rest =>
    if c = sep then some ([], rest)
    else (splitFirst sep rest).map fun (before, after) => (c :: before, after)

/-- The parts before and after the last `sep`, if there is one. -/
def splitLast (sep : Char) : List Char → Option (List Char × List Char)
  | [] => none
  | c :: rest =>
    match splitLast sep rest with
    | some (before, after) => some (c :: before, after)
    | none => if c = sep then some ([], rest) else none

/-- All parts between the separators; a text without one is its own single part. -/
def pieces (sep : Char) : List Char → List (List Char)
  | [] => [[]]
  | c :: rest =>
    if c = sep then [] :: pieces sep rest
    else match pieces sep rest with
      | [] => [[c]]
      | first :: others => (c :: first) :: others

/--
The lines of a text. A line feed ends a line and takes one carriage return before it along; a
carriage return elsewhere is an ordinary character, and nothing after the last line feed is no line.
-/
def lines : List Char → List (List Char)
  | [] => []
  | '\r' :: '\n' :: rest => [] :: lines rest
  | c :: rest =>
    if c = '\n' then [] :: lines rest
    else match lines rest with
      | [] => [[c]]
      | first :: others => (c :: first) :: others

/-- How many characters of a text an error message shows. -/
def snippetLength : Nat := 40

/-- The beginning of a text's first line, as error messages show it. -/
def snippet (text : List Char) : String :=
  String.ofList (((lines text).head?.getD []).take snippetLength)

theorem splitFirst_eq {sep : Char} {text before after : List Char}
    (found : splitFirst sep text = some (before, after)) :
    text = before ++ sep :: after ∧ sep ∉ before := by
  induction text generalizing before with
  | nil => simp [splitFirst] at found
  | cons c rest ih =>
    simp only [splitFirst] at found
    split at found
    next equal => simp_all
    next other =>
      obtain ⟨⟨b, a⟩, cut, same⟩ := Option.map_eq_some_iff.mp found
      simp only [Prod.mk.injEq] at same
      obtain ⟨rfl, rfl⟩ := same
      obtain ⟨shape, absent⟩ := ih cut
      exact ⟨by simp [shape], by simp [absent, Ne.symm other]⟩

theorem splitLast_eq_none {sep : Char} {text : List Char} :
    splitLast sep text = none ↔ sep ∉ text := by
  induction text with
  | nil => simp [splitLast]
  | cons c rest ih =>
    simp only [splitLast]
    cases cut : splitLast sep rest with
    | none =>
      have absent := ih.mp cut
      by_cases equal : c = sep
      · simp [equal]
      · simp [equal, absent, Ne.symm equal]
    | some parts =>
      have present : sep ∈ rest := by
        by_cases h : sep ∈ rest
        · exact h
        · simp [ih.mpr h] at cut
      simp [present]

theorem splitLast_eq {sep : Char} {text before after : List Char}
    (found : splitLast sep text = some (before, after)) :
    text = before ++ sep :: after ∧ sep ∉ after := by
  induction text generalizing before after with
  | nil => simp [splitLast] at found
  | cons c rest ih =>
    simp only [splitLast] at found
    cases cut : splitLast sep rest with
    | some parts =>
      obtain ⟨b, a⟩ := parts
      simp only [cut, Option.some.injEq, Prod.mk.injEq] at found
      obtain ⟨rfl, rfl⟩ := found
      obtain ⟨shape, absent⟩ := ih cut
      exact ⟨by simp [shape], absent⟩
    | none =>
      simp only [cut] at found
      split at found
      next equal =>
        simp only [Option.some.injEq, Prod.mk.injEq] at found
        obtain ⟨rfl, rfl⟩ := found
        exact ⟨by simp [equal], splitLast_eq_none.mp cut⟩
      next => simp at found

theorem splitFirst_append {sep : Char} {before : List Char} (absent : sep ∉ before)
    (after : List Char) : splitFirst sep (before ++ sep :: after) = some (before, after) := by
  induction before with
  | nil => simp [splitFirst]
  | cons c rest ih =>
    obtain ⟨other, absent⟩ : sep ≠ c ∧ sep ∉ rest := by simpa using absent
    simp [splitFirst, Ne.symm other, ih absent]

theorem splitLast_append {sep : Char} {after : List Char} (before : List Char)
    (absent : sep ∉ after) : splitLast sep (before ++ sep :: after) = some (before, after) := by
  induction before with
  | nil => simp [splitLast, splitLast_eq_none.mpr absent]
  | cons c rest ih => simp [splitLast, ih]

theorem pieces_ne_nil (sep : Char) (text : List Char) : pieces sep text ≠ [] := by
  cases text with
  | nil => simp [pieces]
  | cons c rest =>
    simp only [pieces]
    split
    · simp
    · split <;> simp

theorem not_mem_of_mem_pieces {sep : Char} {text piece : List Char}
    (member : piece ∈ pieces sep text) : sep ∉ piece := by
  induction text generalizing piece with
  | nil =>
    obtain rfl := List.mem_singleton.mp member
    exact List.not_mem_nil
  | cons c rest ih =>
    obtain ⟨first, others, cut⟩ := List.exists_cons_of_ne_nil (pieces_ne_nil sep rest)
    rw [pieces, cut] at member
    rw [cut] at ih
    split at member
    next =>
      rcases List.mem_cons.mp member with rfl | later
      · exact List.not_mem_nil
      · exact ih later
    next other =>
      rcases List.mem_cons.mp member with rfl | later
      · rw [List.mem_cons, not_or]
        exact ⟨Ne.symm other, ih (List.mem_cons_self ..)⟩
      · exact ih (List.mem_cons_of_mem _ later)

end Constituency.Text
