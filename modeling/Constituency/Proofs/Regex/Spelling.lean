import Constituency.Proofs.Regex.Prefix

/-!
# Patterns for one word

Whether a text is a word is seen by an automaton that keeps what is left of the word, and that has
no next state once the text differs. Run on a pattern, it tells of patterns that accept no other text
than the word.
-/
namespace Constituency

/-! ### Spelling a word -/

namespace Spelling

/-- The rest of the word behind a character, if the word goes on with it. -/
def next : List Char → Char → Option (List Char)
  | [], _ => none
  | d :: rest, c => if c = d then some rest else none

/-- A set of several characters has one that the word does not go on with. -/
def automaton : Regex.Automaton (List Char) where
  step := next
  stepAll s left test := s.only?.any fun c => (next left c).any test
  stepAll_sound := by
    intro s left test c passed member
    obtain ⟨only, found, passed⟩ := (Option.any_eq_true _ _).mp passed
    obtain rfl : c = only := by simpa [CharSet.contains_of_only? found] using member
    exact (Option.any_eq_true _ _).mp passed

theorem eq_of_run {word text : List Char} (read : automaton.run word text = some []) :
    text = word := by
  induction text generalizing word with
  | nil => exact (Option.some.inj read).symm
  | cons c text ih =>
    obtain ⟨left, stepped, later⟩ := Option.bind_eq_some_iff.mp read
    cases word with
    | nil => contradiction
    | cons d rest =>
      by_cases same : c = d
      · obtain rfl : rest = left := by simpa [automaton, next, same] using stepped
        rw [ih later, same]
      · simp [automaton, next, same] at stepped

end Spelling

/-! ### Patterns that spell a word -/

namespace Pattern

/-- Whether nothing is left of the word behind each match, which holds nothing else. -/
def spells (pattern : Pattern) (word : List Char) : Bool :=
  let node := pattern.regex.node
  node.beginsText && node.endsText && Spelling.automaton.ensures node word fun left => left = []

variable {pattern : Pattern} {word : List Char} {text : String}

theorem eq_of_accepts (spelled : pattern.spells word = true)
    (accepted : pattern.accepts text = true) : text.toList = word := by
  simp only [spells, Bool.and_eq_true] at spelled
  obtain ⟨⟨first, last⟩, ensured⟩ := spelled
  obtain ⟨captures, matched⟩ := exists_captures_of_accepts accepted
  obtain ⟨left, read, nothing⟩ :=
    Regex.Automaton.exists_run_of_captures matched first last ensured
  obtain rfl : left = [] := of_decide_eq_true nothing
  exact Spelling.eq_of_run read

end Pattern

end Constituency
