import Constituency.Proofs.Regex.Contents

/-!
# What templates expand to

A template without references stands for itself. Of the characters that groups never capture, an
expansion holds just those that the template shows.
-/
namespace Constituency.Template

open Constituency.Text

variable {captures : Regex.Captures} {template : List Char}

theorem readPieces_of_no_reference {room : Nat} {text : List Char} (enough : text.length ≤ room)
    (plain : '$' ∉ text) : readPieces room text = text.map .literal := by
  induction room generalizing text with
  | zero =>
    obtain rfl := List.length_eq_zero_iff.mp (Nat.le_zero.mp enough)
    rfl
  | succ room ih =>
    cases text with
    | nil => rfl
    | cons c rest =>
      rw [List.mem_cons, not_or] at plain
      obtain ⟨other, plain⟩ := plain
      rw [readPieces, if_neg (Ne.symm other), ih (Nat.le_of_succ_le_succ enough) plain]
      rfl

/-- A template without references expands to itself. -/
theorem expand_of_no_reference (plain : '$' ∉ template) : expand template captures = template := by
  rw [expand, read, readPieces_of_no_reference (Nat.le_refl _) plain, List.flatMap_map]
  simp [Piece.expand]

/-- A reference to a group, and not to the whole match, brings no character that groups avoid. -/
theorem Piece.not_mem_expand {piece : Piece} {c : Char}
    (avoided : ∀ index captured, index ≠ 0 → captures.group index = some captured → c ∉ captured)
    (proper : piece ≠ .numbered 0) (other : piece ≠ .literal c) : c ∉ piece.expand captures := by
  have held {index : Nat} (nonzero : index ≠ 0) : c ∉ (captures.group index).getD [] := by
    cases found : captures.group index with
    | none => simp
    | some captured => exact avoided index captured nonzero found
  cases piece with
  | literal d =>
    rw [Piece.expand, List.mem_singleton]
    rintro rfl
    exact other rfl
  | numbered index => exact held fun zero => proper (zero ▸ rfl)
  | named label =>
    rw [Piece.expand, Regex.Captures.named]
    split
    next index _ => exact held (Nat.succ_ne_zero index)
    next => simp

/-- An expansion holds such a character as often as the template shows it. -/
theorem count_expand {c : Char}
    (avoided : ∀ index captured, index ≠ 0 → captures.group index = some captured → c ∉ captured)
    (proper : .numbered 0 ∉ read template) :
    (expand template captures).count c = (read template).count (.literal c) := by
  rw [expand]
  generalize read template = pieces at proper ⊢
  induction pieces with
  | nil => rfl
  | cons piece pieces ih =>
    rw [List.mem_cons, not_or] at proper
    obtain ⟨first, later⟩ := proper
    rw [List.flatMap_cons, List.count_append, List.count_cons, ih later, Nat.add_comm]
    by_cases same : piece = .literal c
    · simp [same, Piece.expand]
    · simp [same, List.count_eq_zero.mpr (Piece.not_mem_expand avoided (Ne.symm first) same)]

end Constituency.Template
