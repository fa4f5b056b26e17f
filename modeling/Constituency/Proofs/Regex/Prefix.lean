import Constituency.Pattern
import Constituency.Proofs.Regex.Automaton

/-!
# How accepted texts begin

Whether a text begins with a word is seen by an automaton that keeps what is left of the word, and
notes when the text has begun otherwise. Run on a pattern, it tells of words with which no text
begins that the pattern accepts.
-/
namespace Constituency

/-! ### Reading a word -/

namespace Beginning

/-- The rest of the word behind a character; none once the text has begun otherwise. -/
def next : Option (List Char) → Char → Option (List Char)
  | none, _ => none
  | some [], _ => some []
  | some (d :: rest), c => if c = d then some rest else none

/-- A set of several characters may or may not hold the one that the word goes on with. -/
def automaton : Regex.Automaton (Option (List Char)) where
  step state c := some (next state c)
  stepAll
    | _, none, test => test none
    | _, some [], test => test (some [])
    | s, some (d :: rest), test =>
      match s.only? with
      | some c => test (next (some (d :: rest)) c)
      | none => test none && (!s.contains d || test (some rest))
  stepAll_sound := by
    intro s state test c passed member
    refine ⟨next state c, rfl, ?_⟩
    match state with
    | none => exact passed
    | some [] => exact passed
    | some (d :: rest) =>
      dsimp only at passed
      split at passed
      next only found =>
        obtain rfl : c = only := by simpa [CharSet.contains_of_only? found] using member
        exact passed
      next =>
        -- Both ways are checked, so the way of the character is.
        obtain ⟨otherwise, further⟩ := Bool.and_eq_true_iff.mp passed
        by_cases same : c = d
        · subst same
          simpa [next, member] using further
        · simpa [next, same] using otherwise

theorem run_done (text : List Char) : automaton.run (some []) text = some (some []) := by
  induction text with
  | nil => rfl
  | cons c text ih => exact ih

/-- Nothing is left of the word behind a text that begins with it. -/
theorem run_of_prefix {word text : List Char} (begins : word <+: text) :
    automaton.run (some word) text = some (some []) := by
  induction word generalizing text with
  | nil => exact run_done text
  | cons d word ih =>
    obtain ⟨rest, rfl⟩ := begins
    have read : next (some (d :: word)) d = some word := by simp [next]
    change automaton.run (next (some (d :: word)) d) (word ++ rest) = _
    rw [read]
    exact ih (List.prefix_append word rest)

end Beginning

/-! ### Words that a pattern excludes -/

namespace Pattern

/-- Whether something of the word is left, or the text has begun otherwise, behind each match. -/
def excludes (pattern : Pattern) (word : List Char) : Bool :=
  let node := pattern.regex.node
  node.beginsText && node.endsText &&
    Beginning.automaton.ensures node (some word) fun left => left ≠ some []

variable {pattern : Pattern} {word : List Char} {text : String}

theorem exists_captures_of_accepts (accepted : pattern.accepts text = true) :
    ∃ captures, pattern.regex.captures? text.toList = some captures := by
  rw [accepts, Regex.isMatch, Option.isSome_iff_exists] at accepted
  obtain ⟨thread, found⟩ := accepted
  rw [Regex.captures?, found]
  exact ⟨_, rfl⟩

theorem not_prefix_of_accepts (excluded : pattern.excludes word = true)
    (accepted : pattern.accepts text = true) : ¬ word <+: text.toList := by
  intro begins
  simp only [excludes, Bool.and_eq_true] at excluded
  obtain ⟨⟨first, last⟩, ensured⟩ := excluded
  obtain ⟨captures, matched⟩ := exists_captures_of_accepts accepted
  obtain ⟨left, read, some⟩ :=
    Regex.Automaton.exists_run_of_captures matched first last ensured
  rw [Beginning.run_of_prefix begins, Option.some.injEq] at read
  simp [← read] at some

end Pattern

end Constituency
